import TextVectors.Proofs.Client.EmbedderSteps
import TextVectors.Proofs.Client.Lifetime

namespace TextVectors

/-! In every run the sessions of embedders are released before the values that they are bound to.

Between operations everything that embedders have cached is live.  An operation that uses or gives
up an embedder takes whole batch sessions apart in order, and no other touches them.
-/

open Inference History Owned

/-- What cached batch sessions hold, each from the session down. -/
def SessionCache.bundles (sessions : SessionCache BatchSession) : Multiset (List Handle) :=
  (sessions.entries.map fun entry => {entry.2.held}).sum

theorem heldByAll_add (some others : Multiset (List Handle)) :
    heldByAll (some + others) = heldByAll some + heldByAll others :=
  Multiset.add_bind _ _ _

theorem BatchSession.made_assets (bundle : BatchSession) :
    bundle.assets.made = (bundle.held : Multiset Handle) := by
  have session : bundle.session.assets.made = (bundle.session.held : Multiset Handle) := by
    rw [Session.assets, made_stake, Session.held]
    cases bundle.session.handle <;> rfl
  have tensor {element : ElementType} (tensor : Tensor element) :
      tensor.assets.made = (tensor.held : Multiset Handle) := by
    rw [Tensor.assets, Tensor.held]
    cases tensor.value with
    | none => rfl
    | some value =>
        cases tensor.runtime with
        | none => rfl
        | some runtime => exact made_stake
  have types : (assetsOfTypes bundle.types).made =
      (heldByTypes bundle.types : Multiset Handle) := by
    cases bundle.types with
    | none => rfl
    | some given => exact tensor given
  simp only [assets, held, made_add, session, tensor, types, Multiset.coe_add]

theorem SessionCache.heldByAll_bundles (sessions : SessionCache BatchSession) :
    heldByAll sessions.bundles = (cachedAssets sessions).made := by
  rw [bundles, cachedAssets]
  induction sessions.entries with
  | nil => rfl
  | cons entry rest ih =>
      rw [List.map_cons, List.map_cons, List.sum_cons, List.sum_cons, heldByAll_add, made_add, ih,
        BatchSession.made_assets]
      exact congrArg (· + _) (Multiset.singleton_bind _ _)

theorem mem_sum_map {α β : Type} {values : List α} {parts : α → Multiset β} {part : β} :
    part ∈ (values.map parts).sum ↔ ∃ value ∈ values, part ∈ parts value := by
  induction values with
  | nil => simp
  | cons value rest ih => simp [ih]

theorem SessionCache.mem_bundles {sessions : SessionCache BatchSession} {stack : List Handle} :
    stack ∈ sessions.bundles ↔ ∃ entry ∈ sessions.entries, stack = entry.2.held := by
  simp only [bundles, mem_sum_map, Multiset.mem_singleton]

namespace Client

/-- What embedders have cached in all. -/
def Holdings.bundles (holdings : Holdings) : Multiset (List Handle) :=
  (holdings.embedders.entries.map fun entry => entry.2.embedder.sessions.bundles).sum

namespace Holdings

variable {holdings after : Holdings} {engine last : Engine} {name : String}
variable {watch : List Handle → Prop} {value : HeldEmbedder}

theorem bundles_put (kept : holdings.Kept) (name : String) (value : HeldEmbedder) :
    (embedderSlot.put holdings name value).bundles =
      value.embedder.sessions.bundles + (embedderSlot.erase holdings name).bundles := by
  have entries := (kept.embedders.put_perm name value).map fun entry =>
    entry.2.embedder.sessions.bundles
  rw [List.map_cons] at entries
  exact entries.sum_eq.trans List.sum_cons

theorem bundles_of_find? (kept : holdings.Kept)
    (found : holdings.embedder? name = some value) :
    holdings.bundles =
      value.embedder.sessions.bundles + (embedderSlot.erase holdings name).bundles := by
  have entries := (kept.embedders.perm_of_find? found).map fun entry =>
    entry.2.embedder.sessions.bundles
  rw [List.map_cons] at entries
  exact entries.sum_eq.trans List.sum_cons

theorem bundles_of_missing (missing : holdings.embedder? name = none) :
    holdings.bundles = (embedderSlot.erase holdings name).bundles := by
  have same : (embedderSlot.erase holdings name).embedders.entries = holdings.embedders.entries :=
    NameTable.erase_of_find?_none missing
  rw [bundles, bundles, same]

theorem heldByAll_bundles (holdings : Holdings) :
    heldByAll holdings.bundles = (holdings.embedders.total HeldEmbedder.assets).made := by
  rw [bundles, NameTable.total]
  induction holdings.embedders.entries with
  | nil => rfl
  | cons entry rest ih =>
      rw [List.map_cons, List.map_cons, List.sum_cons, List.sum_cons, heldByAll_add, made_add, ih,
        SessionCache.heldByAll_bundles]
      rfl

/-- What embedders have cached is live, and nothing is held by two. -/
theorem Settled.bundles_live {lineage : Lineage} (settled : holdings.Settled engine) :
    (heldByAll holdings.bundles).Nodup ∧ ∀ handle ∈ heldByAll holdings.bundles,
      handle ∈ engine.history.created ∧ handle ∉ engine.history.released := by
  have part : heldByAll holdings.bundles ≤ holdings.assets.made := by
    rw [heldByAll_bundles, assets]
    simp only [made_add, ← add_assoc]
    exact Multiset.le_add_left _ _
  have live : heldByAll holdings.bundles ≤ (engine.history.live : Multiset Handle) := by
    rw [settled.balanced.live, add_right_comm]
    exact part.trans (Multiset.le_add_left _ _)
  refine ⟨Multiset.nodup_of_le live (Multiset.coe_nodup.mpr settled.sound.live_nodup), ?_⟩
  exact fun handle member => mem_live.mp (Multiset.mem_coe.mp (Multiset.mem_of_le live member))

theorem Settled.rooted {lineage : Lineage} (settled : holdings.Settled engine) :
    holdings.environment.Rooted := by
  intro runtime loaded
  refine settled.balanced.placed.roots runtime.environment ?_
  rw [assets, environments_add, Environment.assets, loaded]
  exact Multiset.mem_add.mpr (.inl (Multiset.mem_singleton_self _))

/-- Every embedder caches whole batch sessions, and whatever is watched is released in order. -/
structure InOrder (watch : List Handle → Prop) (holdings : Holdings) (engine : Engine) : Prop where
  suited : ∀ held ∈ holdings.embedders.values, ∀ entry ∈ held.embedder.sessions.entries,
    entry.2.Suited entry.1
  watched : ∀ stack, watch stack → Overseen stack (stack ∈ holdings.bundles) engine.history

/-- The accounts with which an operation begins. -/
theorem InOrder.begin {lineage : Lineage} (inOrder : holdings.InOrder watch engine)
    (settled : holdings.Settled engine) :
    Watched engine.history watch holdings.bundles engine where
  grown := List.suffix_refl _
  tidy := settled.sound.tidy
  nodup := settled.bundles_live.1
  live stack member handle among := by
    have live := settled.bundles_live.2 handle (mem_heldByAll.mpr ⟨stack, member, among⟩)
    obtain ⟨entry, listed, cached⟩ := mem_sum_map.mp member
    obtain ⟨bundle, stored, rfl⟩ := SessionCache.mem_bundles.mp cached
    obtain ⟨-, runtime, -, standing⟩ :=
      inOrder.suited entry.2 (List.mem_map_of_mem listed) bundle stored
    exact ⟨standing.lasting handle among, live⟩
  watched := inOrder.watched
  made session member _ := .inl member

/-- What the embedder of a name caches can be told from what others do. -/
theorem InOrder.guarded {earlier : History} (inOrder : holdings.InOrder watch engine)
    (kept : holdings.Kept) (watched : Watched earlier watch holdings.bundles last)
    (found : holdings.embedder? name = some value) :
    (orderly earlier watch).Guarded value.embedder.sessions last
      (embedderSlot.erase holdings name).bundles where
  consistent := (embedderSlot.good_of_find? kept found).consistent
  suited := inOrder.suited value (NameTable.mem_values_of_find? found)
  vouched := by
    rw [bundles_of_find? kept found] at watched
    exact watched

/-- An operation that touches no embedder leaves what they have cached alone. -/
theorem InOrder.spared {lineage : Lineage} (inOrder : holdings.InOrder watch engine)
    (settled : after.Settled last) (grown : engine.history <:+ last.history)
    (same : after.embedders = holdings.embedders) :
    after.InOrder watch last where
  suited := by
    rw [same]
    exact inOrder.suited
  watched := by
    have bundles : after.bundles = holdings.bundles := by rw [Holdings.bundles, same]; rfl
    obtain ⟨newer, history⟩ := grown
    intro stack seen
    rw [bundles, ← history]
    refine (inOrder.watched stack seen).beside fun member handle among gone => ?_
    rw [← bundles] at member
    refine (settled.bundles_live.2 handle (mem_heldByAll.mpr ⟨stack, member, among⟩)).2 ?_
    rw [← history, released_append]
    exact List.mem_append_left _ gone

theorem InOrder.put (inOrder : holdings.InOrder watch engine)
    (suited : ∀ entry ∈ value.embedder.sessions.entries, entry.2.Suited entry.1)
    (watched : Watched engine.history watch (embedderSlot.put holdings name value).bundles last) :
    (embedderSlot.put holdings name value).InOrder watch last where
  suited := by
    intro held member
    rcases NameTable.mem_put member with rfl | former
    · exact suited
    · exact inOrder.suited held former
  watched := watched.watched

end Holdings

namespace HeldEmbedder

variable {earlier : History} {watch : List Handle → Prop} {given : Multiset (List Handle)}
variable {held : HeldEmbedder} {engine : Engine}

theorem use_orderly {use : EmbedderKind.Use} (rooted : use.Rooted)
    (guarded : (orderly earlier watch).Guarded held.embedder.sessions engine given) :
    let after := held.use engine use
    (orderly earlier watch).Guarded after.1.embedder.sessions after.2 given := by
  obtain ⟨embedder, own⟩ := held
  cases embedder with
  | dense embedder =>
      exact EmbedderKind.use_orderly DenseEmbedder.work_preserves (embedder, engine) use rooted
        guarded
  | sparse embedder =>
      exact EmbedderKind.use_orderly SparseEmbedder.work_preserves (embedder, engine) use rooted
        guarded

theorem discard_orderly
    (guarded : (orderly earlier watch).Guarded held.embedder.sessions engine given) :
    Watched earlier watch given (held.embedder.discard engine).2 := by
  obtain ⟨embedder, own⟩ := held
  cases embedder <;> exact guarded.discard (orderly_closing earlier watch)

end HeldEmbedder

namespace Holdings

variable {lineage : Lineage} {holdings after : Holdings} {engine last : Engine} {name : String}
variable {watch : List Handle → Prop} {held : HeldEmbedder}

theorem InOrder.used (inOrder : holdings.InOrder watch engine) (settled : holdings.Settled engine)
    (found : holdings.embedder? name = some held) {use : EmbedderKind.Use} (rooted : use.Rooted) :
    let used := held.use engine use
    let after := embedderSlot.put holdings name used.1
    after.InOrder watch used.2 ∧ Watched engine.history watch after.bundles used.2 := by
  have guarded := inOrder.guarded settled.kept (inOrder.begin settled) found
  have left := HeldEmbedder.use_orderly rooted guarded
  have watched := left.vouched
  intro used after
  change Watched _ _ (used.1.embedder.sessions.bundles + _) _ at watched
  rw [← bundles_put settled.kept] at watched
  exact ⟨inOrder.put left.suited watched, watched⟩

theorem InOrder.dropped (inOrder : holdings.InOrder watch engine)
    (settled : holdings.Settled engine) (found : holdings.embedder? name = some held) :
    (embedderSlot.erase holdings name).InOrder watch (held.embedder.discard engine).2 where
  suited other member := inOrder.suited other (NameTable.mem_erase member)
  watched :=
    (HeldEmbedder.discard_orderly
      (inOrder.guarded settled.kept (inOrder.begin settled) found)).watched

theorem InOrder.added (inOrder : holdings.InOrder watch engine) (settled : holdings.Settled engine)
    {fresh : HeldEmbedder} (empty : fresh.embedder.sessions.entries = []) {middle : Engine}
    (same : middle.history = engine.history) :
    (embedderSlot.put holdings name fresh).InOrder watch
      ((holdings.embedder? name).elim middle fun old => (old.embedder.discard middle).2) := by
  have none : fresh.embedder.sessions.bundles = 0 := by rw [SessionCache.bundles, empty]; rfl
  have watched := (inOrder.begin settled).congr same
  refine inOrder.put (by simp [empty]) ?_
  rw [bundles_put settled.kept, none, zero_add]
  cases found : holdings.embedder? name with
  | none =>
      rw [bundles_of_missing found] at watched
      exact watched
  | some old => exact HeldEmbedder.discard_orderly (inOrder.guarded settled.kept watched found)

end Holdings

variable {holdings after : Holdings} {engine last : Engine} {watch : List Handle → Prop}

/-- Whatever an operation does with embedders, what is watched is released in order. -/
theorem Handled.inOrder {one other : Lineage} (handled : Handled holdings engine after last)
    (inOrder : holdings.InOrder watch engine) (before : @Holdings.Settled one holdings engine)
    (settled : @Holdings.Settled other after last) (grown : engine.history <:+ last.history) :
    after.InOrder watch last := by
  cases handled with
  | spared same => exact inOrder.spared settled grown same
  | used rooted found same ended =>
      rw [same, ended]
      exact (inOrder.used before found (rooted before.rooted)).1
  | dropped found same ended =>
      rw [same, ended]
      exact inOrder.dropped before found
  | added empty history same ended =>
      rw [same, ended]
      exact inOrder.added before empty history

/-- The client owns all that is live, whatever that was made through. -/
def Holdings.Founded (holdings : Holdings) (engine : Engine) : Prop :=
  ∃ known, @Holdings.Settled (tracing engine.history known none) holdings engine

theorem founded_start (host : Host) (behaviour : Behaviour) :
    ({ host } : Holdings).Founded { behaviour } :=
  ⟨fun _ _ => False, @Holdings.settled_of_first (tracing _ _ _) rfl host behaviour⟩

theorem inOrder_start (host : Host) (behaviour : Behaviour) :
    ({ host } : Holdings).InOrder (fun _ => False) { behaviour } where
  suited _ member := nomatch member
  watched _ absurd := absurd.elim

theorem perform_inOrder {operation : Operation} {reply : Except ClientError Reply}
    (ran : perform operation holdings engine = ((reply, after), last))
    (founded : holdings.Founded engine) (inOrder : holdings.InOrder watch engine) :
    after.Founded last ∧ engine.history <:+ last.history ∧ after.InOrder watch last := by
  obtain ⟨known, settled⟩ := founded
  obtain ⟨later, grown⟩ := perform_traced settled ran
  exact ⟨⟨_, later⟩, grown, (perform_handled ran).inOrder inOrder settled later grown⟩

theorem performAll_inOrder {operations : List Operation}
    {replies : List (Except ClientError Reply)}
    (ran : performAll operations holdings engine = ((replies, after), last))
    (founded : holdings.Founded engine) (inOrder : holdings.InOrder watch engine) :
    after.Founded last ∧ engine.history <:+ last.history ∧ after.InOrder watch last := by
  induction operations generalizing holdings engine replies with
  | nil =>
      cases ran
      exact ⟨founded, List.suffix_refl _, inOrder⟩
  | cons operation rest ih =>
      obtain ⟨reply, between, middle, others, first, second⟩ := performAll_cons ran
      obtain ⟨foundedFirst, grownFirst, inOrderFirst⟩ := perform_inOrder first founded inOrder
      obtain ⟨foundedLast, grownLast, inOrderLast⟩ := ih second foundedFirst inOrderFirst
      exact ⟨foundedLast, grownFirst.trans grownLast, inOrderLast⟩

/-- What is left after more operations is left when they follow on their own. -/
theorem performAll_append (first rest : List Operation) (holdings : Holdings) (engine : Engine) :
    let middle := performAll first holdings engine
    let last := performAll rest middle.1.2 middle.2
    let whole := performAll (first ++ rest) holdings engine
    whole.1.2 = last.1.2 ∧ whole.2 = last.2 := by
  induction first generalizing holdings engine with
  | nil => exact ⟨rfl, rfl⟩
  | cons operation others ih =>
      exact ih (perform operation holdings engine).1.2 (perform operation holdings engine).2

/-- Whether an operation has an embedder embed something. -/
def Operation.embeds : Operation → Bool
  | .embed .. | .query .. => true
  | _ => false

theorem perform_uses {operation : Operation} {reply : Except ClientError Reply}
    (ran : perform operation holdings engine = ((reply, after), last))
    (embeds : operation.embeds = true) :
    ∃ use name, (holdings.environment.Rooted → use.Rooted) ∧
      Uses use name holdings engine after last := by
  cases operation with
  | embed name documents => exact ⟨_, name, id, Task.embed_uses ran⟩
  | query name text => exact ⟨_, name, id, Task.query_uses ran⟩
  | _ => cases embeds

/-- A session that comes into being while an embedder embeds belongs to a batch session, and that
is released in order from then on. -/
theorem embedded_inOrder {operation : Operation} {reply : Except ClientError Reply}
    (ran : perform operation holdings engine = ((reply, after), last))
    (embeds : operation.embeds = true) (founded : holdings.Founded engine)
    (inOrder : holdings.InOrder watch engine) {session : Handle} (kind : session.kind = .session)
    (created : session ∈ last.history.created) (recent : session ∉ engine.history.created) :
    ∃ bundle : BatchSession, bundle.CreatedSince engine.history last.history session ∧
      after.InOrder (· = bundle.held) last := by
  obtain ⟨known, settled⟩ := founded
  obtain ⟨use, name, rooted, uses⟩ := perform_uses ran embeds
  rcases uses with ⟨rfl, rfl⟩ | ⟨held, found, rfl, rfl⟩
  · exact absurd created recent
  · obtain ⟨left, watched⟩ := inOrder.used settled found (rooted settled.rooted)
    obtain ⟨bundle, since, overseen⟩ := (watched.made session created kind).resolve_left recent
    refine ⟨bundle, since, left.suited, ?_⟩
    rintro stack rfl
    exact overseen

/-- A batch session is put together and taken apart like a stack, whatever the library does.  If it
cannot be created, the error is that of the stage which failed, and the values below it are taken
off first.  In every run, what an embedder's session is bound to is released after the session, the
value that was created last before the others. -/
theorem batch_sessions_like_stacks (host : Host) (runtime : Runtime)
    (root : runtime.environment.kind = .environment) (binding : ModelBinding) (batch : Nat)
    (outputShape : List Int) (engine : Engine) (behaviour : Behaviour)
    (earlier later : List Operation) (operation : Operation) (embeds : operation.embeds = true) :
    EndsIn (fun bundle after => BatchSession.Stacked engine after bundle)
      (fun error after =>
        BatchSession.Refused host runtime binding batch outputShape engine error ∧
          BatchSession.Undone engine after)
      (BatchSession.create host runtime binding batch outputShape engine) ∧
    (let start := performAll earlier { host } { behaviour }
      let embedded := perform operation start.1.2 start.2
      let final := performAll (earlier ++ operation :: later) { host } { behaviour }
      ∀ session : Handle, session.kind = .session → session ∈ embedded.2.history.created →
        session ∉ start.2.history.created →
          ∃ bundle : BatchSession,
            bundle.CreatedSince start.2.history embedded.2.history session ∧
              ReleasedInOrder (session :: bundle.bound.reverse) final.2.history) := by
  refine ⟨BatchSession.create_ends host root binding batch outputShape engine, ?_⟩
  intro start embedded final session kind created recent
  have split : final.2 = (performAll later embedded.1.2 embedded.2).2 :=
    (performAll_append earlier (operation :: later) { host } { behaviour }).2
  have first : performAll earlier { host } { behaviour } = ((start.1.1, start.1.2), start.2) := rfl
  have second : perform operation start.1.2 start.2 = ((embedded.1.1, embedded.1.2), embedded.2) :=
    rfl
  obtain ⟨founded, -, inOrder⟩ :=
    performAll_inOrder first (founded_start host behaviour) (inOrder_start host behaviour)
  obtain ⟨bundle, since, watched⟩ :=
    embedded_inOrder second embeds founded inOrder kind created recent
  obtain ⟨foundedToo, -, -⟩ := perform_inOrder second founded inOrder
  obtain ⟨-, -, last⟩ := performAll_inOrder rfl foundedToo watched
  refine ⟨bundle, since, ?_⟩
  rw [← since.held, split]
  exact (last.watched bundle.held rfl).ordered

/-- An embedder that embeds twice, the second time in a batch of another size, and is given up. -/
theorem discarded_in_order :
    let operations : List Operation :=
      [.load, .openDense "e" "@/model.onnx" (.given trialTokenizer) trialDense.toJson]
    let later : List Operation := [.embed "e" ["a", "one two"], .discard "e"]
    let script : Scripted.Runtime := {}
    let host := Scripted.host (some "@/libonnxruntime.so") true
    let final := performAll (operations ++ .embed "e" ["a"] :: later) { host }
      { behaviour := script.behaviour }
    final.2.history.released.count ⟨.session, 1⟩ = 1 ∧
      ∃ bundle : BatchSession, bundle.session.handle = some ⟨.session, 1⟩ ∧
        ReleasedInOrder (⟨.session, 1⟩ :: bundle.bound.reverse) final.2.history := by
  intro operations later script host final
  obtain ⟨-, stacked⟩ := batch_sessions_like_stacks host
    ⟨⟨.environment, 1⟩, "1.21.0", "@/libonnxruntime.so"⟩ rfl freshDense.binding 1 [1, 4, 2]
    trialEngine script.behaviour operations later (.embed "e" ["a"]) rfl
  obtain ⟨bundle, since, ordered⟩ := stacked ⟨.session, 1⟩ rfl (by decide +kernel)
    (by decide +kernel)
  simp only [final]
  exact ⟨by decide +kernel, bundle, since.live, ordered⟩

end Client

end TextVectors
