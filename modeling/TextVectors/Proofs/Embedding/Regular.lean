import TextVectors.Proofs.Embedding.Running

namespace TextVectors

/-! Actions of embedders that come out the same in every state that is fit for use.

Whatever an embedder has cached and however its buffers were left, a regular action shows the
same as long as the library obliges: the same result, and the same buffers handed over.  Its
transcript says what that is.  Where the library does not oblige, the action still leaves a state
that is fit for use.
-/

open Inference

variable {ε ε' α β γ δ : Type}

/-- What shows of an action while the library obliges: how it ends, and the buffers that it has
handed over by then, newest first. -/
abbrev Transcript := EStateM EmbeddingError (List NamedBuffers)

namespace Transcript

def ofExcept (result : Except EmbeddingError α) : Transcript α := fun handed =>
  match result with
  | .ok value => .ok value handed
  | .error error => .error error handed

def hand (buffers : NamedBuffers) : Transcript Unit :=
  modify (buffers :: ·)

/-- How a transcript ends that nothing precedes. -/
def result (shown : Transcript α) : Except EmbeddingError α :=
  match shown [] with
  | .ok value _ => .ok value
  | .error error _ => .error error

theorem ofExcept_bind (result : Except EmbeddingError α) (next : α → Except EmbeddingError β) :
    Transcript.ofExcept (result >>= next) =
      Transcript.ofExcept result >>= fun value => Transcript.ofExcept (next value) := by
  cases result <;> rfl

theorem ofExcept_mapM (operation : α → Except EmbeddingError β) (values : List α) :
    Transcript.ofExcept (values.mapM operation) =
      values.mapM fun value => Transcript.ofExcept (operation value) := by
  induction values with
  | nil => rfl
  | cons value rest ih =>
      simp only [List.mapM_cons, ofExcept_bind, ih]
      rfl

/-- All buffers of a transcript that nothing precedes, oldest first. -/
def handed (shown : Transcript α) : List NamedBuffers :=
  match shown [] with
  | .ok _ newest => newest.reverse
  | .error _ newest => newest.reverse

end Transcript

/-- An action with the same result in every state, which asks nothing of the library. -/
def Apart (action : Action ε α) (result : Except ε α) : Prop :=
  ∀ engine, ∃ after : Engine, after.history = engine.history ∧
    after.behaviour = engine.behaviour ∧ action engine = ofExcept result after

namespace Apart

theorem ofPure (value : α) : Apart (pure value : Action ε α) (.ok value) :=
  fun engine => ⟨engine, rfl, rfl, rfl⟩

theorem ofThrow (error : ε) : Apart (throw error : Action ε α) (.error error) :=
  fun engine => ⟨engine, rfl, rfl, rfl⟩

theorem ofExcept (result : Except ε α) : Apart (TextVectors.ofExcept result) result :=
  fun engine => ⟨engine, rfl, rfl, rfl⟩

theorem ofConsult (consultation : Consultation) :
    Apart (liftM (Engine.consult consultation) : Action ε Unit) (.ok ()) :=
  fun engine => ⟨(Engine.consult consultation engine).2, rfl, rfl, rfl⟩

theorem ofNote (severity : Severity) (text : String) :
    Apart (liftM (note severity text : Step Unit) : Action ε Unit) (.ok ()) :=
  fun engine => ⟨((note severity text : Step Unit) engine).2, rfl, rfl, rfl⟩

theorem bind {action : Action ε α} {next : α → Action ε β} {result : Except ε α}
    {following : α → Except ε β} (first : Apart action result)
    (rest : ∀ value, Apart (next value) (following value)) :
    Apart (action >>= next) (result >>= following) := by
  intro engine
  obtain ⟨between, history, behaviour, ended⟩ := first engine
  change ∃ after : Engine, _ ∧ _ ∧ EStateM.bind action next engine = _
  rw [EStateM.bind, ended]
  cases result with
  | error error => exact ⟨between, history, behaviour, rfl⟩
  | ok value =>
      obtain ⟨after, historyLast, behaviourLast, endedLast⟩ := rest value between
      exact ⟨after, historyLast.trans history, behaviourLast.trans behaviour, endedLast⟩

theorem afterwards {action : Action ε α} {next : α → Action ε β} {value : α} {result : Except ε β}
    (first : Apart action (.ok value)) (rest : ∀ value, Apart (next value) result) :
    Apart (action >>= next) result :=
  first.bind rest

end Apart

namespace EmbedAction

variable {model : BoundModel} {tokenizer : Tokenizer} {usable : Prop} {outlook : Outlook}

/-- A state that is fit for use: all cached sessions suit their batches, and all labels are what
the tokenizer says. -/
structure Ready (model : BoundModel) (tokenizer : Tokenizer) (outlook : Outlook)
    (state : EmbedState) : Prop where
  guarded : (model.custody outlook).Guarded state.sessions state.engine 0
  labelled : ∀ entry ∈ state.labels,
    entry.1 < halfWordLimit ∧ tokenizer.decode [entry.1] false = .ok entry.2

/-- The end of an action beside that of its transcript. -/
def Shows (model : BoundModel) (tokenizer : Tokenizer) (start : History) (view : α → β) :
    EStateM.Result EmbeddingError (List NamedBuffers) β →
      EStateM.Result EmbeddingError EmbedState α → Prop
  | .ok visible handed, .ok value after =>
      view value = visible ∧ Ready model tokenizer (.obliging start handed) after
  | .error failure handed, .error error after =>
      error = failure ∧ Ready model tokenizer (.obliging start handed) after
  | _, _ => False

/-- An action that comes out the same in every state that is fit for use.  The view is what can
be seen of its value. -/
structure Regular (model : BoundModel) (tokenizer : Tokenizer) (usable : Prop)
    (action : EmbedAction α) (view : α → β) (shown : Transcript β) : Prop where
  keeps : Attains (Ready model tokenizer .unknown) action
    (fun _ => Ready model tokenizer .unknown) (fun _ => Ready model tokenizer .unknown)
  obliged : usable → ∀ start handed state, Ready model tokenizer (.obliging start handed) state →
    Shows model tokenizer start view (shown handed) (action state)

namespace Regular

variable {action : EmbedAction α} {next : α → EmbedAction β} {view : α → γ} {viewNext : β → δ}
variable {shown : Transcript γ} {shownNext : γ → Transcript δ}

/-- An action that hands the library nothing and ends in the same way in every state. -/
theorem ofReaches (result : Except EmbeddingError γ) (reaches : ∀ outlook,
    Attains (Ready model tokenizer outlook) action
      (fun value after => Ready model tokenizer outlook after ∧ result = .ok (view value))
      (fun error after => Ready model tokenizer outlook after ∧ result = .error error)) :
    Regular model tokenizer usable action view (.ofExcept result) where
  keeps := (reaches .unknown).weaken (fun _ _ reached => reached.1) fun _ _ reached => reached.1
  obliged _ start handed state ready := by
    have reached := reaches (.obliging start handed) state ready
    cases ended : action state with
    | ok value after =>
        rw [ended] at reached
        obtain ⟨readyAfter, rfl⟩ := reached
        exact ⟨rfl, readyAfter⟩
    | error error after =>
        rw [ended] at reached
        obtain ⟨readyAfter, rfl⟩ := reached
        exact ⟨rfl, readyAfter⟩

theorem ofPure (value : α) (view : α → γ) :
    Regular model tokenizer usable (pure value : EmbedAction α) view (pure (view value)) :=
  ofReaches (.ok (view value)) fun _ => .ofPure fun _ ready => ⟨ready, rfl⟩

/-- What follows may only depend on what can be seen of the value before. -/
theorem bind (first : Regular model tokenizer usable action view shown)
    (following : γ → EmbedAction β) (seen : ∀ value, next value = following (view value))
    (rest : ∀ visible, Regular model tokenizer usable (following visible) viewNext
      (shownNext visible)) :
    Regular model tokenizer usable (action >>= next) viewNext (shown >>= shownNext) where
  keeps := by
    refine Attains.bind first.keeps fun value => ?_
    rw [seen]
    exact (rest (view value)).keeps
  obliged holds start handed state ready := by
    have reached := first.obliged holds start handed state ready
    change Shows model tokenizer start viewNext (EStateM.bind shown shownNext handed)
      (EStateM.bind action next state)
    unfold EStateM.bind
    cases showed : shown handed with
    | error failure between =>
        cases ended : action state with
        | error error after =>
            rw [showed, ended] at reached
            exact reached
        | ok value after =>
            rw [showed, ended] at reached
            exact reached.elim
    | ok visible between =>
        cases ended : action state with
        | error error after =>
            rw [showed, ended] at reached
            exact reached.elim
        | ok value after =>
            rw [showed, ended] at reached
            obtain ⟨rfl, readyAfter⟩ := reached
            dsimp only
            rw [seen]
            exact (rest (view value)).obliged holds start between after readyAfter

theorem bindPlain {shown : Transcript α} {shownNext : α → Transcript δ}
    (first : Regular model tokenizer usable action id shown)
    (rest : ∀ value, Regular model tokenizer usable (next value) viewNext (shownNext value)) :
    Regular model tokenizer usable (action >>= next) viewNext (shown >>= shownNext) :=
  first.bind next (fun _ => rfl) rest

theorem mapM {operation : α → EmbedAction β} {shown : α → Transcript β}
    (each : ∀ value, Regular model tokenizer usable (operation value) id (shown value))
    (values : List α) :
    Regular model tokenizer usable (values.mapM operation) id (values.mapM shown) := by
  induction values with
  | nil => exact ofPure [] id
  | cons value rest ih =>
      rw [List.mapM_cons, List.mapM_cons]
      exact (each value).bindPlain fun _ => ih.bindPlain fun _ => ofPure _ id

end Regular

theorem Ready.moved {state : EmbedState} (ready : Ready model tokenizer outlook state)
    {engine : Engine} (history : engine.history = state.engine.history)
    (behaviour : engine.behaviour = state.engine.behaviour) :
    Ready model tokenizer outlook { state with engine } :=
  ⟨⟨ready.guarded.consistent, ready.guarded.suited,
      (model.accounts_steady outlook _).congr ready.guarded.vouched history behaviour⟩,
    ready.labelled⟩

theorem ofAction_reaches {action : Action EmbeddingError α} {result : Except EmbeddingError α}
    (apart : Apart action result) (outlook : Outlook) :
    Attains (Ready model tokenizer outlook) (ofAction action)
      (fun value after => Ready model tokenizer outlook after ∧ result = .ok value)
      (fun error after => Ready model tokenizer outlook after ∧ result = .error error) := by
  intro state ready
  obtain ⟨after, history, behaviour, ended⟩ := apart state.engine
  unfold ofAction
  rw [ended]
  cases result with
  | ok value => exact ⟨ready.moved history behaviour, rfl⟩
  | error error => exact ⟨ready.moved history behaviour, rfl⟩

theorem ofAction_regular {action : Action EmbeddingError α} {result : Except EmbeddingError α}
    (apart : Apart action result) :
    Regular model tokenizer usable (ofAction action) id (.ofExcept result) :=
  .ofReaches result (ofAction_reaches apart)

theorem ofExcept_regular (result : Except EmbeddingError α) :
    Regular model tokenizer usable (EmbedAction.ofExcept result) id (.ofExcept result) :=
  ofAction_regular (.ofExcept result)

theorem Regular.bindStep {step : Step α} {value : α} {next : α → EmbedAction β} {view : β → γ}
    {shown : Transcript γ} (apart : Apart (liftM step : Action EmbeddingError α) (.ok value))
    (rest : Regular model tokenizer usable (next value) view shown) :
    Regular model tokenizer usable (ofStep step >>= next) view shown := by
  have continues (outlook : Outlook) (state : EmbedState)
      (ready : Ready model tokenizer outlook state) :
      ∃ after, Ready model tokenizer outlook after ∧
        (ofStep step >>= next) state = next value after := by
    obtain ⟨after, history, behaviour, ended⟩ := apart state.engine
    have same : (.ok (step state.engine).1 (step state.engine).2 :
        EStateM.Result EmbeddingError Engine α) = .ok value after := ended
    injection same with found left
    refine ⟨_, ready.moved history behaviour, ?_⟩
    rw [← found, ← left]
    rfl
  constructor
  · intro state ready
    obtain ⟨after, readyAfter, same⟩ := continues .unknown state ready
    rw [same]
    exact rest.keeps after readyAfter
  · intro holds start handed state ready
    obtain ⟨after, readyAfter, same⟩ := continues (.obliging start handed) state ready
    rw [same]
    exact rest.obliged holds start handed after readyAfter

/-- While the library obliges, nothing of a state can be seen from what a regular action ends
with and what it hands over. -/
theorem Regular.ends_alike {action : EmbedAction α} {shown : Transcript α}
    (regular : Regular model tokenizer usable action id shown) (holds : usable)
    {state : EmbedState} (ready : Ready model tokenizer .unknown state)
    (obliging : state.engine.Obliging model.binding.modelPath model.compute) :
    EndsIn
      (fun value after => shown.result = .ok value ∧
        after.engine.handedSince state.engine = shown.handed)
      (fun error after => shown.result = .error error ∧
        after.engine.handedSince state.engine = shown.handed)
      (action state) := by
  -- The runs of each state are counted from its own history on.
  have vouched : (model.custody (.obliging state.engine.history [])).accounts state.engine
      ((model.custody (.obliging state.engine.history [])).total state.sessions + 0) :=
    ⟨⟨obliging, [], rfl, rfl⟩, ready.guarded.vouched.2⟩
  have handedSince {after : EmbedState} {newest : List NamedBuffers}
      (readyAfter : Ready model tokenizer (.obliging state.engine.history newest) after) :
      after.engine.handedSince state.engine = newest.reverse := by
    obtain ⟨⟨-, newer, grown, handed⟩, -⟩ := readyAfter.guarded.vouched
    rw [Engine.handedSince_append grown, handed]
  have reached := regular.obliged holds state.engine.history [] state
    ⟨⟨ready.guarded.consistent, ready.guarded.suited, vouched⟩, ready.labelled⟩
  unfold Transcript.result Transcript.handed
  cases showed : shown [] with
  | ok visible newest =>
      cases ended : action state with
      | ok value after =>
          rw [showed, ended] at reached
          exact ⟨congrArg Except.ok reached.1.symm, handedSince reached.2⟩
      | error error after =>
          rw [showed, ended] at reached
          exact reached.elim
  | error failure newest =>
      cases ended : action state with
      | ok value after =>
          rw [showed, ended] at reached
          exact reached.elim
      | error error after =>
          rw [showed, ended] at reached
          exact ⟨congrArg Except.error reached.1.symm, handedSince reached.2⟩

end EmbedAction

end TextVectors
