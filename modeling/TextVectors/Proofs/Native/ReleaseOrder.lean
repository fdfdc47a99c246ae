import Mathlib.Data.Multiset.Bind
import TextVectors.Proofs.Embedding.Stopping
import TextVectors.Proofs.Native.Assembly

namespace TextVectors

/-! Sessions are released before the values that they are bound to.

Of a batch session nothing is released as long as it is cached.  Once it is not any more, all of it
is released from the session down, and no moment in between sees a value go before the session.
-/

open Inference History

namespace Inference.History

variable {older newer history : History} {held : List Handle} {handle : Handle}

/-- At every moment, whatever was released of some objects, those in front of it were released. -/
def ReleasedInOrder (held : List Handle) (history : History) : Prop :=
  ∀ moment, moment <:+ history →
    held.Pairwise fun first later => later ∈ released moment → first ∈ released moment

theorem suffix_append_cases {moment : History} (suffix : moment <:+ newer ++ older) :
    moment <:+ older ∨ ∃ front part, newer = front ++ part ∧ moment = part ++ older := by
  obtain ⟨front, whole⟩ := suffix
  rcases List.append_eq_append_iff.mp whole with ⟨part, split, rest⟩ | ⟨part, -, split⟩
  · exact .inr ⟨front, part, split, rest⟩
  · exact .inl ⟨part, split.symm⟩

/-- The order stays as long as nothing more is released. -/
theorem ReleasedInOrder.untouched (ordered : ReleasedInOrder held older)
    (untouched : ∀ handle ∈ held, handle ∉ released newer) :
    ReleasedInOrder held (newer ++ older) := by
  intro moment suffix
  rcases suffix_append_cases suffix with early | ⟨front, part, rfl, rfl⟩
  · exact ordered moment early
  · refine (ordered older (List.suffix_refl older)).imp_of_mem ?_
    intro first later _ member implied gone
    rw [released_append, List.mem_append] at gone ⊢
    refine .inr (implied (gone.resolve_left fun recent => untouched later member ?_))
    rw [released_append]
    exact List.mem_append_right _ recent

/-- The order stays after everything was released. -/
theorem ReleasedInOrder.over (ordered : ReleasedInOrder held older)
    (gone : ∀ handle ∈ held, handle ∈ released older) (newer : History) :
    ReleasedInOrder held (newer ++ older) := by
  intro moment suffix
  rcases suffix_append_cases suffix with early | ⟨front, part, rfl, rfl⟩
  · exact ordered moment early
  · refine List.pairwise_of_forall_mem_list fun first member later _ _ => ?_
    rw [released_append]
    exact List.mem_append_right _ (gone first member)

/-- Objects of which nothing was released yet are released in their order. -/
theorem releasedInOrder_of_freed (ordered : ReleasedInOrder held older) (nodup : held.Nodup)
    (stays : ∀ handle ∈ held, handle.kind.lasting = true)
    (unreleased : ∀ handle ∈ held, handle ∉ released older)
    (freed : (lasting (released newer)).reverse = held) :
    ReleasedInOrder held (newer ++ older) := by
  intro moment suffix
  rcases suffix_append_cases suffix with early | ⟨front, part, rfl, rfl⟩
  · exact ordered moment early
  -- What was released by then is a beginning of the whole.
  rw [released_append, lasting_append, List.reverse_append] at freed
  subst freed
  rw [List.pairwise_append]
  have there {first : Handle} (member : first ∈ (lasting (released part)).reverse) :
      first ∈ released (part ++ older) := by
    rw [released_append]
    exact List.mem_append_left _ (mem_lasting.mp (List.mem_reverse.mp member)).1
  have absent {later : Handle} (member : later ∈ (lasting (released front)).reverse) :
      later ∉ released (part ++ older) := by
    rw [released_append, List.mem_append]
    rintro (recent | early)
    · have lasts := stays later (List.mem_append_right _ member)
      have twice : later ∈ (lasting (released part)).reverse :=
        List.mem_reverse.mpr (mem_lasting.mpr ⟨recent, lasts⟩)
      exact (List.nodup_append.mp nodup).2.2 later twice later member rfl
    · exact unreleased later (List.mem_append_right _ member) early
  refine ⟨?_, ?_, ?_⟩
  · exact List.pairwise_of_forall_mem_list fun first member later _ _ => there member
  · exact List.pairwise_of_forall_mem_list fun first _ later member gone =>
      absurd gone (absent member)
  · exact fun first member later _ _ => there member

/-- Objects come into being one by one, and only such values and sessions are released. -/
structure Tidy (history : History) : Prop where
  numbered : Numbered [] history
  released : ∀ handle ∈ lasting history.released, handle ∈ history.created

theorem Tidy.fresh (tidy : Tidy older) (numbered : older.Numbered newer)
    (member : handle ∈ created newer) : handle ∉ created older := by
  intro former
  have above := (numbered.number member).1
  have below := (tidy.numbered.number former).2
  rw [List.append_nil] at below
  omega

/-- What lasts is not released together with something that came into being later. -/
theorem Tidy.kept (tidy : Tidy older) (numbered : older.Numbered newer)
    (passing : ∀ handle ∈ lasting newer.released, handle ∈ newer.created)
    (lasts : handle.kind.lasting = true) (former : handle ∈ created older) :
    handle ∉ newer.released := fun gone =>
  tidy.fresh numbered (passing handle (mem_lasting.mpr ⟨gone, lasts⟩)) former

theorem Tidy.unreleased (tidy : Tidy older) (numbered : older.Numbered newer)
    (lasts : handle.kind.lasting = true) (recent : handle ∈ created newer) :
    handle ∉ older.released := fun gone =>
  tidy.fresh numbered recent (tidy.released handle (mem_lasting.mpr ⟨gone, lasts⟩))

theorem Tidy.grown (tidy : Tidy older) (numbered : older.Numbered newer)
    (known : ∀ handle ∈ lasting newer.released,
      handle ∈ newer.created ∨ handle ∈ older.created) : Tidy (newer ++ older) where
  numbered := .append (by rwa [List.append_nil]) tidy.numbered
  released handle member := by
    rw [released_append, lasting_append, List.mem_append] at member
    rw [created_append, List.mem_append]
    exact member.elim (known handle) fun former => .inr (tidy.released handle former)

theorem Sound.tidy (sound : Sound history) : Tidy history where
  numbered := by
    rw [← List.append_nil history] at sound
    exact sound.numbered
  released handle member := sound.mem_created_of_released (mem_lasting.mp member).1

end Inference.History

/-- Objects that are released in order, and all of which were released unless they are still
held. -/
structure Overseen (held : List Handle) (still : Prop) (history : History) : Prop where
  ordered : ReleasedInOrder held history
  settled : still ∨ ∀ handle ∈ held, handle ∈ history.released

namespace Overseen

variable {held : List Handle} {still : Prop} {older newer history : History}

theorem unreleased (kept : still)
    (unreleased : ∀ handle ∈ held, handle ∉ history.released) : Overseen held still history := by
  refine ⟨fun moment suffix => ?_, .inl kept⟩
  refine List.pairwise_of_forall_mem_list fun first _ later member gone => ?_
  exact absurd ((suffix.filterMap _).subset gone) (unreleased later member)

theorem settledBefore (ordered : ReleasedInOrder held older)
    (gone : ∀ handle ∈ held, handle ∈ older.released) : Overseen held still (newer ++ older) := by
  refine ⟨ordered.over gone newer, .inr fun handle member => ?_⟩
  rw [released_append]
  exact List.mem_append_right _ (gone handle member)

theorem beside (overseen : Overseen held still older)
    (untouched : still → ∀ handle ∈ held, handle ∉ newer.released) :
    Overseen held still (newer ++ older) := by
  rcases overseen.settled with kept | gone
  · exact ⟨overseen.ordered.untouched (untouched kept), .inl kept⟩
  · exact .settledBefore overseen.ordered gone

/-- All that was held is released in its order. -/
theorem freed (ordered : ReleasedInOrder held older) (nodup : held.Nodup)
    (live : ∀ handle ∈ held, handle.kind.lasting = true ∧ handle ∈ older.created ∧
      handle ∉ older.released)
    (freed : (lasting newer.released).reverse = held) : Overseen held still (newer ++ older) := by
  constructor
  · exact releasedInOrder_of_freed ordered nodup (fun handle member => (live handle member).1)
      (fun handle member => (live handle member).2.2) freed
  · refine .inr fun handle member => ?_
    rw [← freed] at member
    rw [released_append]
    exact List.mem_append_left _ (mem_lasting.mp (List.mem_reverse.mp member)).1

end Overseen

/-- A batch session that came into being since some earlier moment, with its native session on top
of the values that it is bound to. -/
structure BatchSession.CreatedSince (earlier history : History) (session : Handle)
    (bundle : BatchSession) : Prop where
  created : ∃ (source : EmbedAction.Source) (batch : Nat) (before after : Engine),
    source.create batch before = .ok bundle after ∧
      earlier <:+ before.history ∧ after.history <:+ history
  live : bundle.session.handle = some session
  held : bundle.held = session :: bundle.bound.reverse

theorem BatchSession.CreatedSince.later {earlier history final : History} {session : Handle}
    {bundle : BatchSession} (created : bundle.CreatedSince earlier history session)
    (suffix : history <:+ final) : bundle.CreatedSince earlier final session := by
  obtain ⟨⟨source, batch, before, middle, made, since, within⟩, live, held⟩ := created
  exact ⟨⟨source, batch, before, middle, made, since, within.trans suffix⟩, live, held⟩

/-- All that some batch sessions hold. -/
def heldByAll (cached : Multiset (List Handle)) : Multiset Handle :=
  cached.bind fun held => (held : Multiset Handle)

theorem mem_heldByAll {cached : Multiset (List Handle)} {handle : Handle} :
    handle ∈ heldByAll cached ↔ ∃ held ∈ cached, handle ∈ held := by
  simp [heldByAll]

/-- What batch sessions hold, each from the top down, is neither released nor held twice.  Whatever
is watched is released in order, and so is every batch session that made a session since some
earlier moment. -/
structure Watched (earlier : History) (watch : List Handle → Prop)
    (cached : Multiset (List Handle)) (engine : Engine) : Prop where
  grown : earlier <:+ engine.history
  tidy : engine.history.Tidy
  nodup : (heldByAll cached).Nodup
  live : ∀ held ∈ cached, ∀ handle ∈ held, handle.kind.lasting = true ∧
    handle ∈ engine.history.created ∧ handle ∉ engine.history.released
  watched : ∀ held, watch held → Overseen held (held ∈ cached) engine.history
  made : ∀ session ∈ engine.history.created, session.kind = .session →
    session ∈ earlier.created ∨ ∃ bundle : BatchSession,
      bundle.CreatedSince earlier engine.history session ∧
        Overseen bundle.held (bundle.held ∈ cached) engine.history

namespace Watched

variable {earlier newer : History} {watch : List Handle → Prop}
variable {cached more : Multiset (List Handle)}
variable {engine after : Engine} {bundle : BatchSession} {runtime : Runtime} {held : List Handle}

theorem congr (watched : Watched earlier watch cached engine)
    (same : after.history = engine.history) : Watched earlier watch cached after := by
  obtain ⟨grown, tidy, nodup, live, seen, made⟩ := watched
  rw [← same] at grown tidy live seen made
  exact ⟨grown, tidy, nodup, live, seen, made⟩

/-- What comes on top of what is held leaves it alone, whether it stays or goes again. -/
theorem grow (watched : Watched earlier watch cached engine)
    (history : after.history = newer ++ engine.history)
    (numbered : engine.history.Numbered newer)
    (passing : ∀ handle ∈ lasting newer.released, handle ∈ newer.created)
    (nodup : (heldByAll more).Nodup)
    (live : ∀ held ∈ more, ∀ handle ∈ held, handle.kind.lasting = true ∧
      handle ∈ newer.created ∧ handle ∉ newer.released)
    (made : ∀ session ∈ newer.created, session.kind = .session → ∃ bundle : BatchSession,
      bundle.CreatedSince earlier after.history session ∧ bundle.held ∈ more) :
    Watched earlier watch (more + cached) after := by
  have tidy := watched.tidy
  have kept {held : List Handle} (member : held ∈ cached) :
      ∀ handle ∈ held, handle ∉ newer.released := by
    intro handle among
    obtain ⟨lasts, former, -⟩ := watched.live held member handle among
    exact tidy.kept numbered passing lasts former
  have liveAfter : ∀ held ∈ more + cached, ∀ handle ∈ held, handle.kind.lasting = true ∧
      handle ∈ after.history.created ∧ handle ∉ after.history.released := by
    rw [history, created_append, released_append]
    intro held member handle among
    rw [List.mem_append, List.mem_append, not_or]
    rcases Multiset.mem_add.mp member with top | below
    · obtain ⟨lasts, recent, there⟩ := live held top handle among
      exact ⟨lasts, .inl recent, there, tidy.unreleased numbered lasts recent⟩
    · obtain ⟨lasts, former, there⟩ := watched.live held below handle among
      exact ⟨lasts, .inr former, kept below handle among, there⟩
  have stays {held : List Handle} (overseen : Overseen held (held ∈ cached) engine.history) :
      Overseen held (held ∈ more + cached) after.history := by
    have beside : Overseen held (held ∈ cached) (newer ++ engine.history) := overseen.beside kept
    rw [history]
    exact ⟨beside.ordered, beside.settled.imp_left fun below =>
      Multiset.mem_add.mpr (.inr below)⟩
  have suffix : engine.history <:+ after.history := ⟨newer, history.symm⟩
  constructor
  case grown => exact watched.grown.trans suffix
  case tidy =>
    rw [history]
    exact tidy.grown numbered fun handle member => .inl (passing handle member)
  case nodup =>
    rw [heldByAll, Multiset.add_bind]
    refine Multiset.nodup_add.mpr ⟨nodup, watched.nodup, ?_⟩
    refine Multiset.disjoint_left.mpr ?_
    intro handle top below
    obtain ⟨held, member, among⟩ := mem_heldByAll.mp top
    obtain ⟨other, memberToo, amongToo⟩ := mem_heldByAll.mp below
    obtain ⟨-, former, -⟩ := watched.live other memberToo handle amongToo
    exact tidy.fresh numbered (live held member handle among).2.1 former
  case live => exact liveAfter
  case watched => exact fun held seen => stays (watched.watched held seen)
  case made =>
    intro session member kind
    rw [history, created_append, List.mem_append] at member
    rcases member with recent | former
    · obtain ⟨bundle, since, top⟩ := made session recent kind
      refine .inr ⟨bundle, since, ?_⟩
      have there : bundle.held ∈ more + cached := Multiset.mem_add.mpr (.inl top)
      exact .unreleased there fun handle among => (liveAfter _ there handle among).2.2
    · refine (watched.made session former kind).imp_right ?_
      rintro ⟨bundle, since, overseen⟩
      exact ⟨bundle, since.later suffix, stays overseen⟩

/-- What made nothing that lasts, or released it again. -/
theorem passed (watched : Watched earlier watch cached engine)
    (history : after.history = newer ++ engine.history)
    (numbered : engine.history.Numbered newer)
    (passing : ∀ handle ∈ lasting newer.released, handle ∈ newer.created)
    (sessions : ∀ handle ∈ newer.created, handle.kind ≠ .session) :
    Watched earlier watch cached after := by
  have grown : Watched earlier watch (0 + cached) after :=
    watched.grow history numbered passing Multiset.nodup_zero
      (fun held member => absurd member (Multiset.notMem_zero held))
      fun session member kind => absurd kind (sessions session member)
  rwa [zero_add] at grown

/-- What is disposed of is released in order, and the rest is left alone. -/
theorem disposed (watched : Watched earlier watch ({held} + cached) engine)
    (history : after.history = newer ++ engine.history) (plain : newer.created = [])
    (freed : (lasting newer.released).reverse = held) :
    Watched earlier watch cached after := by
  have nodup := watched.nodup
  rw [heldByAll, Multiset.add_bind, Multiset.singleton_bind, Multiset.nodup_add] at nodup
  obtain ⟨own, others, apart⟩ := nodup
  have topLive := watched.live held (Multiset.mem_add.mpr (.inl (Multiset.mem_singleton_self held)))
  have below {other : List Handle} (member : other ∈ cached) :
      ∀ handle ∈ other, handle.kind.lasting = true ∧ handle ∈ engine.history.created ∧
        handle ∉ engine.history.released :=
    watched.live other (Multiset.mem_add.mpr (.inr member))
  have kept {other : List Handle} (member : other ∈ cached) :
      ∀ handle ∈ other, handle ∉ newer.released := by
    intro handle among gone
    have top : handle ∈ held := by
      rw [← freed]
      exact List.mem_reverse.mpr (mem_lasting.mpr ⟨gone, (below member handle among).1⟩)
    exact Multiset.disjoint_left.mp apart (Multiset.mem_coe.mpr top)
      (mem_heldByAll.mpr ⟨other, member, among⟩)
  have stays {other : List Handle} (overseen : Overseen other (other ∈ {held} + cached)
      engine.history) : Overseen other (other ∈ cached) after.history := by
    obtain ⟨ordered, settled⟩ := overseen
    rw [history]
    rcases settled with among | released
    · rcases Multiset.mem_add.mp among with top | member
      · rw [Multiset.mem_singleton.mp top] at ordered ⊢
        exact .freed ordered own topLive freed
      · exact ⟨ordered.untouched (kept member), .inl member⟩
    · exact .settledBefore ordered released
  have suffix : engine.history <:+ after.history := ⟨newer, history.symm⟩
  constructor
  case grown => exact watched.grown.trans suffix
  case tidy =>
    rw [history]
    refine watched.tidy.grown (numbered_of_plain plain) fun handle member => .inr ?_
    refine (topLive handle ?_).2.1
    rw [← freed]
    exact List.mem_reverse.mpr member
  case nodup => exact others
  case live =>
    intro other member handle among
    obtain ⟨lasts, created, unreleased⟩ := below member handle among
    rw [history, created_append, released_append, List.mem_append, List.mem_append, not_or]
    exact ⟨lasts, .inr created, kept member handle among, unreleased⟩
  case watched => exact fun other seen => stays (watched.watched other seen)
  case made =>
    intro session member kind
    rw [history, created_append, plain, List.nil_append] at member
    refine (watched.made session member kind).imp_right ?_
    rintro ⟨bundle, since, overseen⟩
    exact ⟨bundle, since.later suffix, stays overseen⟩

theorem piled (watched : Watched earlier watch cached engine)
    (piled : Piled [] bundle.held engine after newer)
    (standing : bundle.Standing runtime) (created : ∀ session,
      bundle.session.handle = some session → bundle.CreatedSince earlier after.history session) :
    Watched earlier watch ({bundle.held} + cached) after := by
  have made := piled.made
  rw [List.append_nil] at made
  obtain ⟨session, live, -, -⟩ := standing.on_top
  have nodup : bundle.held.Nodup := by
    rw [made]
    exact piled.numbered.nodup.filter _
  refine watched.grow piled.history piled.numbered (by simp [piled.gone]) ?_ ?_ ?_
  · rw [heldByAll, Multiset.singleton_bind]
    exact nodup
  · intro held member handle among
    rw [Multiset.mem_singleton.mp member, made] at among
    obtain ⟨recent, lasts⟩ := mem_lasting.mp among
    refine ⟨lasts, recent, fun gone => ?_⟩
    have none : handle ∈ lasting newer.released := mem_lasting.mpr ⟨gone, lasts⟩
    rw [piled.gone] at none
    cases none
  · intro other recent kindToo
    refine ⟨bundle, created other ?_, Multiset.mem_singleton_self _⟩
    have lasts : other.kind.lasting = true := by rw [kindToo]; rfl
    have among : other ∈ bundle.held := by
      rw [made]
      exact mem_lasting.mpr ⟨recent, lasts⟩
    -- Of all that is held only the session is one.
    have parts := List.mem_append.mp among
    rw [Session.held, live] at parts
    rcases parts with own | value
    · rw [live, List.mem_singleton.mp own]
    · exact absurd kindToo (standing.values_no_session other value)

theorem cleared (watched : Watched earlier watch cached engine)
    (cleared : Cleared [] engine after newer) : Watched earlier watch cached after := by
  have gone := cleared.gone
  rw [List.append_nil] at gone
  refine watched.passed cleared.history cleared.numbered ?_ cleared.sessions
  intro handle member
  have made : handle ∈ lasting newer.created := by
    rw [← gone]
    exact List.mem_reverse.mpr member
  exact (mem_lasting.mp made).1

/-- What made nothing that lasts, and released nothing that does. -/
theorem quiet (watched : Watched earlier watch cached engine)
    (quiet : Piled [] [] engine after newer) : Watched earlier watch cached after := by
  refine watched.passed quiet.history quiet.numbered (by simp [quiet.gone]) ?_
  intro handle member session
  have lasts : handle.kind.lasting = true := by rw [session]; rfl
  have made : handle ∈ lasting newer.created ++ [] := by
    rw [List.append_nil]
    exact mem_lasting.mpr ⟨member, lasts⟩
  rw [← quiet.made] at made
  cases made

end Watched

/-- A batch session as it is cached. -/
def BatchSession.Suited (batch : Nat) (bundle : BatchSession) : Prop :=
  bundle.batch = batch ∧ ∃ runtime : Runtime, runtime.environment.kind = .environment ∧
    bundle.Standing runtime

/-- Batch sessions are accounted for by what they hold. -/
def orderly (earlier : History) (watch : List Handle → Prop) :
    Custody Engine BatchSession (Multiset (List Handle)) where
  accounts engine cached := Watched earlier watch cached engine
  share bundle := {bundle.held}
  fits := BatchSession.Suited
  refuses _ _ := True
  sticks _ := True

section Orderly

variable {earlier : History} {watch : List Handle → Prop} {bundle : BatchSession} {batch : Nat}

theorem orderly_disposed {cached : Multiset (List Handle)} {engine after : Engine}
    {result : Except EmbeddingError Unit} (suited : bundle.Suited batch)
    (watched : Watched earlier watch ({bundle.held} + cached) engine)
    (ran : disposeSession bundle engine = (result, after)) :
    Watched earlier watch cached after := by
  cases ran
  obtain ⟨-, runtime, root, standing⟩ := suited
  obtain ⟨newer, history, plain, freed⟩ := standing.dispose_clears root engine
  exact watched.disposed history plain freed

theorem orderly_closing (earlier : History) (watch : List Handle → Prop) :
    (orderly earlier watch).Lawful closingActions where
  noted _ _ watched := watched.congr rfl
  created := by
    intro batch engine cached result after watched ran
    cases ran
    exact .inr ⟨_, rfl, trivial, watched⟩
  destroyed suited watched ran := ⟨orderly_disposed suited watched ran, fun _ _ => trivial⟩

theorem source_piles {source : EmbedAction.Source}
    (root : source.runtime.environment.kind = .environment) (batch : Nat) :
    Piles [] (source.create batch) BatchSession.held (BatchSession.Standing source.runtime) :=
  .bind (.ofExcept _) (fun _ _ => nofun) fun shape _ =>
    BatchSession.create_piles source.host root source.binding batch shape

theorem orderly_source {source : EmbedAction.Source}
    (root : source.runtime.environment.kind = .environment) (earlier : History)
    (watch : List Handle → Prop) : (orderly earlier watch).Lawful source.actions where
  noted _ _ watched := watched.congr rfl
  created := by
    intro batch engine cached result after watched ran
    change attempt (source.create batch) engine = (result, after) at ran
    obtain ⟨newer, reached⟩ := source_piles root batch engine
    unfold attempt at ran
    cases ended : source.create batch engine with
    | ok bundle last =>
        rw [ended] at ran reached
        cases ran
        obtain ⟨piled, standing⟩ := reached
        obtain ⟨session, live, -, held⟩ := standing.on_top
        have created : bundle.CreatedSince earlier after.history session :=
          ⟨⟨source, batch, engine, after, ended, watched.grown, List.suffix_refl _⟩, live, held⟩
        refine .inl ⟨bundle, rfl, ⟨SessionCache.batch_of_created ended, _, root, standing⟩, ?_⟩
        refine watched.piled piled standing fun other same => ?_
        rw [live] at same
        cases same
        exact created
    | error error last =>
        rw [ended] at ran reached
        cases ran
        exact .inr ⟨error, rfl, trivial, watched.cleared reached⟩
  destroyed suited watched ran := ⟨orderly_disposed suited watched ran, fun _ _ => trivial⟩

end Orderly

end TextVectors
