import TextVectors.Proofs.Native.CallPlan
import TextVectors.Proofs.Native.Cleanup
import TextVectors.Proofs.Native.History

namespace TextVectors

/-! Values and sessions are stacked.

What comes into being stays on top of what was there.  An operation that fails takes everything off
again, the last one first: what it made itself and what it was given to build upon.
-/

open Inference

variable {ε ε' α β : Type}

/-- Values and sessions stay until they are destroyed.  Other objects serve a few calls. -/
def Inference.ObjectKind.lasting : ObjectKind → Bool
  | .value | .session => true
  | .environment | .memoryInfo | .sessionOptions | .status => false

namespace Inference.History

variable {older newer further : History} {handle : Handle} {handles others : List Handle}

def lasting (handles : List Handle) : List Handle :=
  handles.filter (·.kind.lasting)

@[simp] theorem lasting_append (handles others : List Handle) :
    lasting (handles ++ others) = lasting handles ++ lasting others :=
  List.filter_append handles others

theorem mem_lasting : handle ∈ lasting handles ↔ handle ∈ handles ∧ handle.kind.lasting = true :=
  List.mem_filter

/-- Objects come into being as the next ones of their kinds. -/
def Numbered (older : History) : History → Prop
  | [] => True
  | event :: newer => Numbered older newer ∧
      ∀ handle, event.created? = some handle → handle = fresh (newer ++ older) handle.kind

/-- How many objects of a kind have come into being. -/
def count (history : History) (kind : ObjectKind) : Nat :=
  history.created.countP (·.kind == kind)

theorem number_fresh (history : History) (kind : ObjectKind) :
    (fresh history kind).number = history.count kind + 1 := rfl

theorem count_le (newer older : History) (kind : ObjectKind) :
    older.count kind ≤ count (newer ++ older) kind := by
  simp [count]

theorem Numbered.append (last : Numbered (newer ++ older) further) (first : Numbered older newer) :
    Numbered older (further ++ newer) := by
  induction further with
  | nil => exact first
  | cons event further ih =>
      obtain ⟨rest, next⟩ := last
      refine ⟨ih rest, fun handle made => ?_⟩
      have numbered := next handle made
      rwa [← List.append_assoc] at numbered

theorem numbered_of_plain (plain : created newer = []) : Numbered older newer := by
  induction newer with
  | nil => trivial
  | cons event newer ih =>
      have parts : created [event] ++ created newer = [] := by
        rw [← created_append]
        exact plain
      obtain ⟨first, rest⟩ := List.append_eq_nil_iff.mp parts
      refine ⟨ih rest, fun handle made => ?_⟩
      simp [created, made] at first

/-- What has come into being is numbered beyond all that there was before. -/
theorem Numbered.number (numbered : Numbered older newer) (member : handle ∈ created newer) :
    older.count handle.kind < handle.number ∧
      handle.number ≤ count (newer ++ older) handle.kind := by
  induction newer with
  | nil => cases member
  | cons event newer ih =>
      obtain ⟨rest, next⟩ := numbered
      have within := count_le [event] (newer ++ older) handle.kind
      cases made : event.created? with
      | none =>
          rw [created, List.filterMap_cons_none made] at member
          obtain ⟨above, below⟩ := ih rest member
          exact ⟨above, Nat.le_trans below within⟩
      | some other =>
          rw [created, List.filterMap_cons_some made] at member
          rcases List.mem_cons.mp member with rfl | former
          · have number := congrArg Handle.number (next handle made)
            rw [number_fresh] at number
            have before := count_le newer older handle.kind
            have counted : count (event :: (newer ++ older)) handle.kind =
                count (newer ++ older) handle.kind + 1 := by
              simp [count, created, List.filterMap_cons_some made]
            refine ⟨by omega, ?_⟩
            rw [List.cons_append, counted]
            exact Nat.le_of_eq number
          · obtain ⟨above, below⟩ := ih rest former
            exact ⟨above, Nat.le_trans below within⟩

theorem Numbered.nodup (numbered : Numbered older newer) : (created newer).Nodup := by
  induction newer with
  | nil => simp [created]
  | cons event newer ih =>
      obtain ⟨rest, next⟩ := numbered
      cases made : event.created? with
      | none =>
          rw [created, List.filterMap_cons_none made]
          exact ih rest
      | some handle =>
          rw [created, List.filterMap_cons_some made, List.nodup_cons]
          refine ⟨fun member => ?_, ih rest⟩
          have number := congrArg Handle.number (next handle made)
          have below := (rest.number member).2
          rw [number_fresh] at number
          omega

theorem Sound.numbered (sound : Sound (newer ++ older)) : Numbered older newer := by
  induction newer with
  | nil => trivial
  | cons event newer ih => exact ⟨ih sound.1, sound.2.2⟩

end Inference.History

open History

/-- An operation that went well has put what it made on top of what was given. -/
structure Piled (given kept : List Handle) (before after : Engine) (newer : History) : Prop where
  history : after.history = newer ++ before.history
  numbered : before.history.Numbered newer
  made : kept = lasting newer.created ++ given
  gone : lasting newer.released = []

/-- An operation that failed has taken off what it made, and then what was given. -/
structure Cleared (given : List Handle) (before after : Engine) (newer : History) : Prop where
  history : after.history = newer ++ before.history
  numbered : before.history.Numbered newer
  gone : (lasting newer.released).reverse = lasting newer.created ++ given
  sessions : ∀ handle ∈ newer.created, handle.kind ≠ .session

section Stacks

variable {given kept last : List Handle} {before middle after : Engine} {newer further : History}

theorem Piled.trans (first : Piled given kept before middle newer)
    (second : Piled kept last middle after further) :
    Piled given last before after (further ++ newer) where
  history := by rw [second.history, first.history, List.append_assoc]
  numbered := .append (first.history ▸ second.numbered) first.numbered
  made := by rw [second.made, first.made, created_append, lasting_append, List.append_assoc]
  gone := by
    rw [released_append, lasting_append, second.gone, first.gone]
    rfl

/-- A failure takes off what was piled up before. -/
theorem Piled.cleared (first : Piled given kept before middle newer)
    (sessions : ∀ handle ∈ newer.created, handle.kind ≠ .session)
    (second : Cleared kept middle after further) :
    Cleared given before after (further ++ newer) where
  history := by rw [second.history, first.history, List.append_assoc]
  numbered := .append (first.history ▸ second.numbered) first.numbered
  gone := by
    rw [released_append, lasting_append, first.gone, List.append_nil, second.gone, first.made,
      created_append, lasting_append, List.append_assoc]
  sessions handle member := by
    rw [created_append, List.mem_append] at member
    exact member.elim (second.sessions handle) (sessions handle)

/-- Every session that was made is kept. -/
theorem Piled.no_session (piled : Piled given kept before after newer)
    (values : ∀ handle ∈ kept, handle.kind ≠ .session) :
    ∀ handle ∈ newer.created, handle.kind ≠ .session := by
  intro handle member session
  have lasts : handle.kind.lasting = true := by rw [session]; rfl
  have stacked : handle ∈ kept := by
    rw [piled.made]
    exact List.mem_append_left _ (mem_lasting.mpr ⟨member, lasts⟩)
  exact values handle stacked session

end Stacks

/-- An operation that stacks what it makes, whatever the library did before and does now. -/
def Piles (given : List Handle) (action : Action ε α) (kept : α → List Handle) (good : α → Prop) :
    Prop :=
  ∀ engine, ∃ newer,
    EndsIn (fun value after => Piled given (kept value) engine after newer ∧ good value)
      (fun _ after => Cleared given engine after newer) (action engine)

/-- An operation that cannot fail. -/
def Sure (action : Action ε α) : Prop :=
  ∀ engine, ∃ value after, action engine = .ok value after

/-- A step that makes nothing, and releases these values and sessions in their order. -/
def Clears (freed : List Handle) (step : Step α) : Prop :=
  ∀ engine, ∃ newer : History, (step engine).2.history = newer ++ engine.history ∧
    newer.created = [] ∧ (lasting newer.released).reverse = freed

namespace Clears

variable {freed freed' : List Handle} {step : Step α} {next : α → Step β}

theorem ofQuiet (history : ∀ engine, (step engine).2.history = engine.history) : Clears [] step :=
  fun engine => ⟨[], history engine, rfl, rfl⟩

theorem ofPure (value : α) : Clears [] (pure value : Step α) :=
  ofQuiet fun _ => rfl

theorem ofNote (severity : Severity) (text : String) : Clears [] (note severity text : Step Unit) :=
  ofQuiet fun _ => rfl

/-- What comes next need only clear after what the first step can result in. -/
theorem bindFrom (first : Clears freed step)
    (rest : ∀ engine, Clears freed' (next (step engine).1)) :
    Clears (freed ++ freed') (step >>= next) := by
  intro engine
  obtain ⟨newer, history, plain, gone⟩ := first engine
  obtain ⟨further, historyLast, plainLast, goneLast⟩ := rest engine (step engine).2
  refine ⟨further ++ newer, ?_, ?_, ?_⟩
  · rw [bind_apply, historyLast, history, List.append_assoc]
  · rw [created_append, plainLast, plain]
    rfl
  · rw [released_append, lasting_append, List.reverse_append, gone, goneLast]

theorem bind (first : Clears freed step) (rest : ∀ value, Clears freed' (next value)) :
    Clears (freed ++ freed') (step >>= next) :=
  first.bindFrom fun engine => rest (step engine).1

theorem bindLast (first : Clears freed step) (rest : ∀ value, Clears [] (next value)) :
    Clears freed (step >>= next) := by
  have both := first.bind rest
  rwa [List.append_nil] at both

theorem release {handle : Handle} (stays : handle.kind.lasting = true) :
    Clears [handle] (Engine.release handle) :=
  fun _ => ⟨[.released handle], rfl, rfl, by simp [released, Event.released?, lasting, stays]⟩

/-- Releasing an object that does not last. -/
theorem pass {handle : Handle} (passes : handle.kind.lasting = false) :
    Clears [] (Engine.release handle) :=
  fun _ => ⟨[.released handle], rfl, rfl, by simp [released, Event.released?, lasting, passes]⟩

theorem retain (runtime : Runtime) : Clears [] runtime.retain :=
  ofQuiet fun _ => rfl

theorem letGo {runtime : Runtime} (root : runtime.environment.kind = .environment) :
    Clears [] runtime.letGo := by
  intro engine
  unfold Runtime.letGo
  simp only [bind_apply]
  split
  · exact ⟨[.released runtime.environment], rfl, rfl,
      by simp [released, Event.released?, lasting, root, ObjectKind.lasting]⟩
  · exact ⟨[], rfl, rfl, rfl⟩

end Clears

namespace Piles

variable {given held : List Handle} {action : Action ε α} {next : α → Action ε β}
variable {kept : α → List Handle} {last : β → List Handle} {good : α → Prop}
variable {goodLast : β → Prop}

theorem ofPure {value : α} (same : given = kept value) (holds : good value) :
    Piles given (pure value : Action ε α) kept good :=
  fun _ => ⟨[], ⟨rfl, trivial, same.symm, rfl⟩, holds⟩

theorem ofThrow (error : ε) : Piles [] (throw error : Action ε α) kept good :=
  fun _ => ⟨[], rfl, trivial, rfl, nofun⟩

theorem ofExcept (result : Except ε α) :
    Piles [] (TextVectors.ofExcept result) (fun _ => []) (fun value => result = .ok value) := by
  cases result with
  | ok value => exact fun _ => ⟨[], ⟨rfl, trivial, rfl, rfl⟩, rfl⟩
  | error error => exact .ofThrow error

theorem ofMapFailure {wrap : ε → ε'} (piles : Piles given action kept good) :
    Piles given (mapFailure wrap action) kept good := by
  intro engine
  obtain ⟨newer, reached⟩ := piles engine
  refine ⟨newer, ?_⟩
  unfold mapFailure
  cases ended : action engine <;> rw [ended] at reached <;> exact reached

/-- Nothing can fail any more after a session was made: it would not be destroyed again. -/
theorem bindSafe (first : Piles given action kept good)
    (safe : ∀ value, good value →
      (∀ handle ∈ kept value, handle.kind ≠ .session) ∨ Sure (next value))
    (rest : ∀ value, good value → Piles (kept value) (next value) last goodLast) :
    Piles given (action >>= next) last goodLast := by
  intro engine
  obtain ⟨newer, reached⟩ := first engine
  change ∃ newer, EndsIn _ _ (EStateM.bind action next engine)
  unfold EStateM.bind
  cases ended : action engine with
  | error error middle =>
      rw [ended] at reached
      exact ⟨newer, reached⟩
  | ok value middle =>
      rw [ended] at reached
      obtain ⟨piled, holds⟩ := reached
      obtain ⟨further, reachedLast⟩ := rest value holds middle
      refine ⟨further ++ newer, ?_⟩
      dsimp only
      cases endedLast : next value middle with
      | ok result after =>
          rw [endedLast] at reachedLast
          exact ⟨piled.trans reachedLast.1, reachedLast.2⟩
      | error error after =>
          rw [endedLast] at reachedLast
          have values := (safe value holds).resolve_right fun sure => by
            obtain ⟨result, last, succeeded⟩ := sure middle
            rw [succeeded] at endedLast
            cases endedLast
          exact piled.cleared (piled.no_session values) reachedLast

theorem bind (first : Piles given action kept good)
    (values : ∀ value, good value → ∀ handle ∈ kept value, handle.kind ≠ .session)
    (rest : ∀ value, good value → Piles (kept value) (next value) last goodLast) :
    Piles given (action >>= next) last goodLast :=
  first.bindSafe (fun value holds => .inl (values value holds)) rest

/-- Steps that release nothing that lasts. -/
theorem afterStep {step : Step α} {next : α → Action ε β} (clears : Clears [] step)
    (rest : ∀ value, Piles given (next value) last goodLast) :
    Piles given ((liftM step : Action ε α) >>= next) last goodLast := by
  intro engine
  obtain ⟨newer, history, plain, gone⟩ := clears engine
  have piled : Piled given given engine (step engine).2 newer :=
    ⟨history, numbered_of_plain plain, by rw [plain]; rfl, List.reverse_eq_nil_iff.mp gone⟩
  obtain ⟨further, reached⟩ := rest (step engine).1 (step engine).2
  refine ⟨further ++ newer, ?_⟩
  rw [Course.step_bind_apply]
  cases ended : next (step engine).1 (step engine).2 with
  | ok value after =>
      rw [ended] at reached
      exact ⟨piled.trans reached.1, reached.2⟩
  | error error after =>
      rw [ended] at reached
      refine piled.cleared (fun handle member => ?_) reached
      rw [plain] at member
      cases member

/-- What was given stays below what is made.  A failure is followed by taking it off. -/
theorem orCleanUp {cleanup : Step Unit} (tried : Piles [] action kept good)
    (cleans : Clears held cleanup) :
    Piles held (orCleanUp cleanup action) (fun value => kept value ++ held) good := by
  intro engine
  obtain ⟨newer, reached⟩ := tried engine
  rw [Course.orCleanUp_apply]
  cases ended : action engine with
  | ok value after =>
      rw [ended] at reached
      obtain ⟨piled, holds⟩ := reached
      refine ⟨newer, ⟨piled.history, piled.numbered, ?_, piled.gone⟩, holds⟩
      dsimp only
      rw [piled.made, List.append_nil]
  | error error middle =>
      rw [ended] at reached
      obtain ⟨further, history, plain, gone⟩ := cleans middle
      have own := reached.gone
      rw [List.append_nil] at own
      refine ⟨further ++ newer, ?_, .append (numbered_of_plain plain) reached.numbered, ?_, ?_⟩
      · rw [history, reached.history, List.append_assoc]
      · rw [released_append, lasting_append, List.reverse_append, own, gone, created_append, plain,
          List.nil_append]
      · intro handle member
        rw [created_append, plain, List.nil_append] at member
        exact reached.sessions handle member

/-- Something that is only needed for an operation is released after it, whatever comes out. -/
theorem bindAttempt {cleanup : Step Unit} {next : Except ε α → Action ε β}
    (tried : Piles [] action kept good) (cleans : Clears [] cleanup)
    (safe : ∀ value, good value →
      (∀ handle ∈ kept value, handle.kind ≠ .session) ∨ Sure (next (.ok value)))
    (succeeds : ∀ value, good value → Piles (kept value) (next (.ok value)) last goodLast)
    (fails : ∀ error, next (.error error) = throw error) :
    Piles [] ((liftM (attempt action) : Action ε (Except ε α)) >>= fun result =>
      (liftM cleanup : Action ε Unit) >>= fun _ => next result) last goodLast := by
  have reordered : ((liftM (attempt action) : Action ε (Except ε α)) >>= fun result =>
      (liftM cleanup : Action ε Unit) >>= fun _ => next result) =
        (TextVectors.orCleanUp cleanup action >>= fun value =>
          (liftM cleanup : Action ε Unit) >>= fun _ => next (.ok value)) := by
    funext engine
    change _ = EStateM.bind (TextVectors.orCleanUp cleanup action) _ engine
    unfold EStateM.bind
    rw [Course.step_bind_apply, Course.orCleanUp_apply, attempt]
    cases action engine with
    | ok value middle => rfl
    | error error middle =>
        rw [Course.step_bind_apply, fails]
        rfl
  rw [reordered]
  refine .bindSafe (tried.orCleanUp cleans) (fun value holds => ?_) fun value holds => ?_
  · rw [List.append_nil]
    exact (safe value holds).imp_right fun sure engine => sure (cleanup engine).2
  · rw [List.append_nil]
    exact .afterStep cleans fun _ => succeeds value holds

/-- A call makes what it hands out, and nothing else that lasts. -/
theorem request (call : Call) :
    Piles [] (Engine.request call) (fun made => lasting made.toList)
      (fun made => ∀ handle ∈ made, call.creates = some handle.kind) := by
  intro engine
  have quiet : Piled [] [] engine (engine.recorded (.called call .done)) [.called call .done] :=
    ⟨rfl, ⟨trivial, nofun⟩, rfl, rfl⟩
  have null : Piled [] [] engine (engine.recorded (.called call .null)) [.called call .null] :=
    ⟨rfl, ⟨trivial, nofun⟩, rfl, rfl⟩
  cases answered : engine.nextAnswer call.function with
  | failure code text =>
      rw [Engine.request_failure answered]
      refine ⟨failing call _, rfl, ?_, rfl, ?_⟩
      · refine ⟨⟨⟨⟨trivial, ?_⟩, nofun⟩, nofun⟩, nofun⟩
        rintro handle ⟨⟩
        rfl
      · intro handle member
        cases List.mem_singleton.mp member
        exact nofun
  | null =>
      cases creating : call.creates with
      | none =>
          rw [Engine.request_done (by simp [answered]) creating]
          exact ⟨_, quiet, nofun⟩
      | some kind =>
          rw [Engine.request_null answered creating]
          exact ⟨_, null, nofun⟩
  | success =>
      cases creating : call.creates with
      | none =>
          rw [Engine.request_done (by simp [answered]) creating]
          exact ⟨_, quiet, nofun⟩
      | some kind =>
          rw [Engine.request_created answered creating]
          refine ⟨[.called call (.created (engine.history.fresh kind))],
            ⟨rfl, ⟨trivial, ?_⟩, (List.append_nil _).symm, rfl⟩, ?_⟩
          · rintro handle ⟨⟩
            rfl
          · rintro handle ⟨⟩
            rfl

/-- A call that only sets something. -/
theorem set {call : Call} (nothing : call.creates = none) :
    Piles [] (Engine.request call) (fun _ => []) (fun _ => True) := by
  intro engine
  obtain ⟨newer, reached⟩ := Piles.request call engine
  refine ⟨newer, ?_⟩
  cases ended : Engine.request call engine with
  | ok made after =>
      rw [ended] at reached
      obtain ⟨piled, kinds⟩ := reached
      cases made with
      | none => exact ⟨piled, trivial⟩
      | some handle =>
          have creates := kinds handle rfl
          rw [nothing] at creates
          cases creates
  | error error after =>
      rw [ended] at reached
      exact reached

end Piles

/-- What a call hands out is no session, unless it creates one. -/
theorem no_session_of_creates {call : Call} {made : Option Handle}
    (kinds : ∀ handle ∈ made, call.creates = some handle.kind)
    (other : call.creates ≠ some .session) :
    ∀ handle ∈ lasting made.toList, handle.kind ≠ .session := by
  intro handle member session
  have creates := kinds handle (by simpa using (mem_lasting.mp member).1)
  rw [session] at creates
  exact other creates

namespace Inference

namespace Tensor

variable {element : ElementType}

/-- A tensor as it was created on a runtime. -/
def Made (runtime : Runtime) (tensor : Tensor element) : Prop :=
  tensor.runtime = some runtime ∧ ∃ value, tensor.value = some value ∧ value.kind = .value

variable {runtime : Runtime} {tensor : Tensor element}

theorem Made.held (made : tensor.Made runtime) :
    ∃ value, tensor.value = some value ∧ value.kind = .value ∧ tensor.held = [value] := by
  obtain ⟨loaded, value, live, kind⟩ := made
  exact ⟨value, live, kind, by simp [Tensor.held, live, loaded]⟩

theorem Made.no_session (made : tensor.Made runtime) : ∀ handle ∈ tensor.held,
    handle.kind ≠ .session := by
  obtain ⟨value, -, kind, held⟩ := made.held
  rw [held]
  intro handle member
  rw [List.mem_singleton.mp member, kind]
  exact nofun

theorem createValue_piles (element : ElementType) (shape : Shape) (length : Nat) :
    Piles [] (createValue element shape length) (fun value => [value])
      (fun value => value.kind = .value) := by
  unfold createValue
  refine .bind (.request _) (fun info kinds => ?_) fun info kinds => ?_
  · exact no_session_of_creates kinds nofun
  cases info with
  | none => exact .ofThrow _
  | some info =>
      have kind : info.kind = .memoryInfo := (Option.some.inj (kinds info rfl)).symm
      have passes : info.kind.lasting = false := by rw [kind]; rfl
      have none : lasting (some info).toList = [] := by simp [lasting, passes]
      rw [none]
      refine .bindAttempt (.request _) (.pass passes) (fun value kinds => ?_)
        (fun value kinds => ?_) fun _ => rfl
      · exact .inl (no_session_of_creates kinds nofun)
      cases value with
      | none => exact .ofThrow _
      | some value =>
          have kind : value.kind = .value := (Option.some.inj (kinds value rfl)).symm
          exact .ofPure (by simp [lasting, kind, ObjectKind.lasting]) kind

theorem create_piles (runtime : Runtime) (shape : Shape) (cells : List element.Cell) :
    Piles [] (create runtime shape cells) held (Made runtime) := by
  unfold create
  refine .bind (.ofMapFailure (.ofExcept _)) (fun _ _ => nofun) fun expected _ => ?_
  by_cases same : cells.length = expected
  · simp only [same, ne_eq, not_true_eq_false, if_false]
    refine .bind (createValue_piles element shape expected) (fun value kind => ?_)
      fun value kind => ?_
    · intro handle member
      rw [List.mem_singleton.mp member, kind]
      exact nofun
    · exact .afterStep (.retain runtime) fun _ => .ofPure rfl ⟨rfl, value, rfl, kind⟩
  · simp only [same, ne_eq, not_false_eq_true, if_true]
    exact .ofThrow _

theorem zeros_piles (runtime : Runtime) (shape : Shape) :
    Piles [] (zeros element runtime shape) held (Made runtime) :=
  .bind (.ofMapFailure (.ofExcept _)) (fun _ _ => nofun) fun _ _ => create_piles runtime shape _

theorem Made.destroy_clears (made : tensor.Made runtime)
    (root : runtime.environment.kind = .environment) : Clears tensor.held tensor.destroy := by
  obtain ⟨value, live, kind, held⟩ := made.held
  have stays : value.kind.lasting = true := by rw [kind]; rfl
  rw [held, destroy, live, made.1]
  exact .bindLast (.release stays) fun _ => .bindLast (.letGo root) fun _ => .ofPure destroyed

end Tensor

namespace Session

theorem setOptions_piles (native : Handle) (options : SessionOptions) :
    Piles [] (setOptions native options) (fun _ => []) (fun _ => True) := by
  unfold setOptions
  refine .bind (.set rfl) (fun _ _ => nofun) fun _ _ => ?_
  have inter : Piles [] (do
      if options.interOpThreads > 0 then
        let _ ← Engine.request (.setInterOpThreads native options.interOpThreads))
      (fun _ => []) (fun _ => True) := by
    split
    · exact .bind (.set rfl) (fun _ _ => nofun) fun _ _ => .ofPure rfl trivial
    · exact .ofPure rfl trivial
  dsimp only
  split
  · exact .bind (.set rfl) (fun _ _ => nofun) fun _ _ => inter
  · exact inter

theorem load_piles (runtime : Runtime) (modelPath : String) (native : Handle)
    (options : SessionOptions) :
    Piles [] (load runtime modelPath native options) (fun made => lasting made.toList)
      (fun made => ∀ handle ∈ made, some ObjectKind.session = some handle.kind) :=
  .bind (setOptions_piles native options) (fun _ _ => nofun) fun _ _ => .request _

/-- A session as it was created on a runtime, bound as asked. -/
structure Made (runtime : Runtime) (request : SessionRequest) (session : Session) : Prop where
  runtime : session.runtime = runtime
  live : ∃ handle, session.handle = some handle ∧ handle.kind = .session
  binds : request.Binds session.inputs session.outputs

theorem create_piles (host : Host) (runtime : Runtime) (request : SessionRequest)
    (options : SessionOptions) :
    Piles [] (create host runtime request options) held (Made runtime request) := by
  unfold create
  refine .bind (.ofExcept _) (fun _ _ => nofun) fun sides bound => ?_
  obtain ⟨inputs, outputs⟩ := sides
  have binds := (SessionRequest.bindings_ok bound).2
  refine .bind (.request _) (fun native kinds => no_session_of_creates kinds nofun)
    fun native kinds => ?_
  cases native with
  | none => exact .ofThrow _
  | some native =>
      have kind : native.kind = .sessionOptions := (Option.some.inj (kinds native rfl)).symm
      have passes : native.kind.lasting = false := by rw [kind]; rfl
      have none : lasting (some native).toList = [] := by simp [lasting, passes]
      rw [none]
      refine .bindAttempt (load_piles _ _ native options) (.pass passes) (fun made kinds => ?_)
        (fun made kinds => ?_) fun _ => rfl
      · cases made with
        | none => exact .inl nofun
        | some handle => exact .inr fun engine => ⟨_, _, rfl⟩
      · cases made with
        | none => exact .ofThrow _
        | some handle =>
            have kind : handle.kind = .session := (Option.some.inj (kinds handle rfl)).symm
            refine .afterStep (.ofNote _ _) fun _ => .afterStep (.retain runtime) fun _ => ?_
            refine .ofPure ?_ ⟨rfl, ⟨handle, rfl, kind⟩, binds⟩
            simp [lasting, kind, ObjectKind.lasting, held]

theorem run_piles (session : Session) (inputs : List Operand) (outputs : List (Option Handle)) :
    Piles [] (session.run inputs outputs) (fun _ => []) (fun _ => True) := by
  have requested (call : Call) (nothing : call.creates = none) :
      Piles [] (Engine.requestRun call) (fun _ => []) (fun _ => True) := by
    intro engine
    obtain ⟨newer, reached⟩ := Piles.set nothing engine
    refine ⟨newer, ?_⟩
    rw [Engine.requestRun_apply]
    cases ended : Engine.request call engine <;> rw [ended] at reached <;> exact reached
  unfold run
  cases session.handle with
  | none => exact .ofThrow _
  | some handle =>
      refine .bind (.ofMapFailure (.bind (.ofExcept _) (fun _ _ => nofun) fun _ _ => .ofExcept _))
        (fun _ _ => nofun) fun _ _ => requested _ rfl

end Session

end Inference

end TextVectors
