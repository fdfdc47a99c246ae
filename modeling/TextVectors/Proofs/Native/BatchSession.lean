import TextVectors.Proofs.Embedding.StoredRun
import TextVectors.Proofs.Native.Session

namespace TextVectors

/-! A batch session owns its tensors and its session. -/

open Inference Owned

variable {ε α β : Type} {runtime : Runtime}

/-- The cleanup destroys what was held beside the operation that failed. -/
theorem TradesOr.orCleanUp [Lineage] {given held : Owned} {action : Action ε α}
    {cleanup : Step Unit} {part : α → Owned} {good : α → Prop}
    (attempted : TradesOr given action (fun value => part value + given) good given)
    (cleans : Trades held cleanup (fun _ => 0) (fun _ => True)) :
    TradesOr (held + given) (orCleanUp cleanup action) (fun value => part value + held + given) good
      given := by
  have whole : TradesOr (held + given) action (fun value => part value + held + given) good
      (given + held) :=
    attempted.within held (add_comm held given) rfl (fun _ _ => add_right_comm _ _ _)
      fun _ holds => holds
  refine .bindStep whole.trades_attempt fun result holds => ?_
  cases result with
  | ok value => exact .ofPure (holds value rfl) rfl
  | error error =>
      exact .bindStepBeside given cleans (add_comm given held) fun _ _ => .ofThrow (zero_add given)

namespace BatchSession

variable {bundle : BatchSession} {tensor : Tensor .int64} {types : Option (Tensor .int64)}

def assetsOfTypes (types : Option (Tensor .int64)) : Owned :=
  match types with
  | none => 0
  | some tensor => tensor.assets

structure Whole (bundle : BatchSession) : Prop where
  ids : bundle.ids.Whole
  mask : bundle.mask.Whole
  types : ∀ tensor ∈ bundle.types, tensor.Whole
  output : bundle.output.Whole

def assets (bundle : BatchSession) : Owned :=
  bundle.session.assets + (bundle.output.assets +
    (assetsOfTypes bundle.types + (bundle.mask.assets + bundle.ids.assets)))

section

variable [Lineage]

theorem tokenTensor_trades (current : Lineage.current runtime.environment) (shape : Shape)
    (name : String) :
    TradesOr (reference runtime) (tokenTensor runtime shape name)
      (fun tensor => tensor.assets + reference runtime) Tensor.Whole (reference runtime) :=
  .ofMapFailure (Tensor.zeros_trades current shape)

theorem destroyTensor_trades {element : ElementType} {tensor : Tensor element}
    (whole : tensor.Whole) :
    Trades tensor.assets (destroyTensor tensor) (fun _ => 0) (fun _ => True) :=
  .bind (Tensor.destroy_trades whole) fun _ _ => .ofPure trivial rfl

theorem destroyTypes_trades (whole : ∀ tensor ∈ types, tensor.Whole) :
    Trades (assetsOfTypes types) (destroyTypes types) (fun _ => 0) (fun _ => True) := by
  cases types with
  | none => exact .ofPure trivial rfl
  | some tensor => exact destroyTensor_trades (whole tensor rfl)

theorem beside_trades {held rest : Owned} {first second : Step Unit}
    (one : Trades held first (fun _ => 0) (fun _ => True))
    (other : Trades rest second (fun _ => 0) (fun _ => True)) :
    Trades (held + rest) (do first; second) (fun _ => 0) (fun _ => True) := by
  refine .bindBeside rest one rfl fun _ _ => ?_
  rw [zero_add]
  exact other

theorem create_trades (current : Lineage.current runtime.environment) (host : Host)
    (binding : ModelBinding) (batch : Nat) (outputShape : List Int) :
    TradesOr (reference runtime) (create host runtime binding batch outputShape)
      (fun bundle => bundle.assets + reference runtime)
      (fun bundle => bundle.batch = batch ∧ bundle.Whole) (reference runtime) := by
  unfold create
  refine .bind (.ofMapFailure (.ofExcept _)) fun rows _ => ?_
  refine .bind (.ofMapFailure (.ofExcept _)) fun columns _ => ?_
  refine .bind (tokenTensor_trades current _ _) fun ids idsWhole => ?_
  refine .bind ((tokenTensor_trades current _ _).orCleanUp (destroyTensor_trades idsWhole))
    fun mask maskWhole => ?_
  dsimp only
  have dropInputs := beside_trades (destroyTensor_trades maskWhole) (destroyTensor_trades idsWhole)
  have typed : TradesOr (mask.assets + ids.assets + reference runtime)
      (if binding.usesTokenTypes then
        some <$> orCleanUp (do destroyTensor mask; destroyTensor ids)
          (tokenTensor runtime ⟨[rows, columns]⟩ "token_type_ids")
      else pure none)
      (fun types => assetsOfTypes types + (mask.assets + ids.assets) + reference runtime)
      (fun types => ∀ tensor ∈ types, tensor.Whole) (reference runtime) := by
    split
    · refine ((tokenTensor_trades current _ _).orCleanUp dropInputs).map (fun _ => rfl) ?_
      intro tensor whole other same
      cases same
      exact whole
    · refine .ofPure (by simp) ?_
      rw [assetsOfTypes, zero_add]
  rw [ite_bind]
  refine .bind typed fun types typesWhole => ?_
  have dropTokens := beside_trades (destroyTypes_trades typesWhole) dropInputs
  have outputs : TradesOr (reference runtime) (mapFailure (failing "failed to create output tensor")
      (Tensor.zeros .float runtime ⟨outputShape⟩)) (fun tensor => tensor.assets + reference runtime)
      Tensor.Whole (reference runtime) := .ofMapFailure (Tensor.zeros_trades current _)
  refine .bind (outputs.orCleanUp dropTokens) fun output outputWhole => ?_
  have dropAll := beside_trades (destroyTensor_trades outputWhole) dropTokens
  refine .bind (TradesOr.orCleanUp (.ofMapFailure (Session.create_trades current host _ _)) dropAll)
    fun session _ => ?_
  exact .bindStep (note_trades _ _) fun _ _ =>
    .ofPure ⟨rfl, idsWhole, maskWhole, typesWhole, outputWhole⟩ rfl

theorem destroy_trades (whole : bundle.Whole) :
    Trades bundle.assets bundle.destroy (fun after => after.session.assets) (fun _ => True) := by
  unfold destroy
  refine .bindBeside _ (Session.destroy_trades bundle.session) rfl fun session _ => ?_
  refine .bindBeside (session.assets + (assetsOfTypes bundle.types +
    (bundle.mask.assets + bundle.ids.assets))) (Tensor.destroy_trades whole.output)
    (add_left_comm _ _ _) fun output _ => ?_
  rw [zero_add]
  have tail (types : Option (Tensor .int64)) :
      Trades (session.assets + (bundle.mask.assets + bundle.ids.assets)) (do
        let mask ← bundle.mask.destroy
        let ids ← bundle.ids.destroy
        return { bundle with session, output, types, mask, ids })
        (fun after => after.session.assets) (fun _ => True) := by
    refine .bindBeside (session.assets + bundle.ids.assets) (Tensor.destroy_trades whole.mask)
      (add_left_comm _ _ _) fun mask _ => ?_
    rw [zero_add]
    refine .bindBeside session.assets (Tensor.destroy_trades whole.ids) (add_comm _ _)
      fun ids _ => ?_
    exact .ofPure trivial (zero_add _)
  cases typed : bundle.types with
  | none =>
      rw [assetsOfTypes, zero_add]
      exact tail none
  | some tensor =>
      have typesWhole : tensor.Whole := whole.types tensor typed
      have gone : Trades (assetsOfTypes (some tensor)) (some <$> tensor.destroy) (fun _ => 0)
          (fun _ => True) :=
        (Tensor.destroy_trades typesWhole).map (fun _ => rfl) fun _ _ => trivial
      refine .bindBeside (session.assets + (bundle.mask.assets + bundle.ids.assets)) gone
        (add_left_comm _ _ _) fun destroyed _ => ?_
      rw [zero_add]
      exact tail destroyed

theorem dispose_trades (whole : bundle.Whole) :
    Trades bundle.assets bundle.dispose (fun _ => 0) (fun _ => True) :=
  .bind (destroy_trades whole) fun after _ => Session.discard_trades after.session

end

namespace Refilled

variable {changed : BatchSession}

theorem assets (refilled : bundle.Refilled changed) : changed.assets = bundle.assets := by
  obtain ⟨cells, -, rfl⟩ := refilled
  rfl

theorem whole (refilled : bundle.Refilled changed) (whole : bundle.Whole) : changed.Whole := by
  obtain ⟨cells, -, rfl⟩ := refilled
  exact ⟨whole.ids, whole.mask, whole.types, whole.output⟩

end Refilled

theorem holds_operand {handle : Handle} (whole : bundle.Whole)
    (given : some handle ∈ bundle.operands.map (·.value)) : bundle.assets.Holds handle := by
  simp only [operands, List.map_cons, List.mem_cons, Option.toList_map, List.map_map,
    List.mem_map] at given
  apply Holds.add_left
  apply Holds.add_left
  rcases given with ids | mask | ⟨tensor, typed, value⟩
  · exact ((Tensor.holds_value whole.ids ids.symm).add_left _).add_left _
  · exact ((Tensor.holds_value whole.mask mask.symm).add _).add_left _
  · have typed : bundle.types = some tensor := by simpa using typed
    rw [typed]
    exact (Tensor.holds_value (whole.types tensor typed) value).add _

/-- A run works on what the batch session owns. -/
theorem run_trades [Lineage] (whole : bundle.Whole) :
    Trades bundle.assets bundle.run (fun _ => bundle.assets) (fun _ => True) := by
  intro frame engine balanced
  have ran : TradesOr bundle.assets
      (bundle.session.run bundle.operands [bundle.output.value]) (fun _ => bundle.assets)
      (fun _ => True) bundle.assets := by
    refine Session.run_trades ?_ ?_ ?_
    · intro handle live
      apply Holds.add
      rw [Session.assets, live, handles_some]
      exact holds_stake _ (Multiset.mem_singleton_self handle)
    · exact fun handle given => holds_operand whole given
    · intro handle given
      rw [List.mem_singleton] at given
      exact ((Tensor.holds_value whole.output given.symm).add _).add_left _
  have kept : Ensures (·.Balanced (bundle.assets + frame)) bundle.run
      fun _ after => after.Balanced (bundle.assets + frame) :=
    run_leaves ((ran frame).weaken (fun _ _ reached => reached.2) fun _ _ reached => reached)
  exact ⟨trivial, kept engine balanced⟩

theorem setBuffers_types (bundle : BatchSession) (buffers : TokenBuffers) :
    (bundle.setBuffers buffers).types = bundle.types ∨
      ∃ tensor cells, bundle.types = some tensor ∧
        (bundle.setBuffers buffers).types = some { tensor with cells } := by
  cases typed : bundle.types with
  | none => exact .inl (by simp [setBuffers, typed])
  | some tensor =>
      cases given : buffers.types with
      | none => exact .inl (by simp [setBuffers, typed, given])
      | some cells => exact .inr ⟨tensor, cells, rfl, by simp [setBuffers, typed, given]⟩

theorem assets_setBuffers (bundle : BatchSession) (buffers : TokenBuffers) :
    (bundle.setBuffers buffers).assets = bundle.assets := by
  rcases setBuffers_types bundle buffers with same | ⟨tensor, cells, typed, changed⟩
  · rw [assets, same]
    rfl
  · rw [assets, changed, assets, typed]
    rfl

theorem whole_setBuffers (whole : bundle.Whole) (buffers : TokenBuffers) :
    (bundle.setBuffers buffers).Whole := by
  refine ⟨whole.ids, whole.mask, ?_, whole.output⟩
  rcases setBuffers_types bundle buffers with same | ⟨tensor, cells, typed, changed⟩
  · rw [same]
    exact whole.types
  · rw [changed]
    intro other absurd
    cases absurd
    exact whole.types tensor typed

theorem setBuffers_buffers (bundle : BatchSession) : bundle.setBuffers bundle.buffers = bundle := by
  obtain ⟨batch, length, ids, mask, types, output, session⟩ := bundle
  cases types <;> rfl

/-- Filling a batch session only writes its token buffers. -/
theorem fillEncodings_setBuffers (bundle : BatchSession) (encodings : List Encoding) :
    ∃ buffers, (bundle.fillEncodings encodings).2 = bundle.setBuffers buffers := by
  unfold fillEncodings
  split
  · exact ⟨bundle.buffers, bundle.setBuffers_buffers.symm⟩
  · exact ⟨_, rfl⟩

theorem fillWindows_setBuffers (bundle : BatchSession) (windows : List Window) :
    ∃ buffers, (bundle.fillWindows windows).2 = bundle.setBuffers buffers := by
  unfold fillWindows
  split
  · exact ⟨bundle.buffers, bundle.setBuffers_buffers.symm⟩
  · exact ⟨_, rfl⟩

end BatchSession

end TextVectors
