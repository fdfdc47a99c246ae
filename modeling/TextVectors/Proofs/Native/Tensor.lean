import TextVectors.Inference.Tensor
import TextVectors.Proofs.Native.Trade

namespace TextVectors.Inference.Tensor

/-! Tensors own a value with a reference to the runtime that it was made through. -/

open Owned

variable {element : ElementType}

/-- A tensor has both or neither. -/
def Whole (tensor : Tensor element) : Prop :=
  tensor.value.isSome = tensor.runtime.isSome

def assets (tensor : Tensor element) : Owned :=
  match tensor.value, tensor.runtime with
  | some value, some runtime => stake runtime {value}
  | _, _ => 0

theorem holds_value {tensor : Tensor element} {value : Handle} (whole : tensor.Whole)
    (live : tensor.value = some value) : tensor.assets.Holds value := by
  cases loaded : tensor.runtime with
  | none => simp [Whole, live, loaded] at whole
  | some runtime =>
      simp only [assets, live, loaded]
      exact holds_stake runtime (Multiset.mem_singleton_self value)

section

variable [Lineage] {runtime : Runtime}

theorem createValue_trades (current : Lineage.current runtime.environment)
    (element : ElementType) (shape : Shape) (length : Nat) :
    TradesOr (reference runtime) (createValue element shape length)
      (fun value => stake runtime {value}) (fun _ => True) (reference runtime) := by
  unfold createValue
  refine .bindMake current rfl rfl (by simp [Call.uses]) rfl (.ofThrow rfl) fun info => ?_
  have used : ∀ handle ∈ (Call.createValue info (length * element.width) shape.dims element).uses,
      (stake runtime ({info} + 0)).Holds handle := by
    intro handle member
    rw [List.mem_singleton.mp member]
    exact holds_stake runtime (by simp)
  refine .bindStep (make_trades current rfl rfl used).trades_attempt fun result _ => ?_
  cases result with
  | error error => exact .bindStep (release_trades info) fun _ _ => .ofThrow rfl
  | ok made =>
      dsimp only
      rw [add_left_comm]
      refine .bindStep (release_trades info) fun _ _ => ?_
      rw [add_zero]
      cases made with
      | none => exact .ofThrow rfl
      | some value => exact .ofPure trivial rfl

theorem create_trades (current : Lineage.current runtime.environment) (shape : Shape)
    (cells : List element.Cell) :
    TradesOr (reference runtime) (create runtime shape cells)
      (fun tensor => tensor.assets + reference runtime) Whole (reference runtime) := by
  unfold create
  refine .bind (.ofMapFailure (.ofExcept _)) fun expected _ => ?_
  by_cases same : cells.length = expected
  · simp only [same, ne_eq, not_true_eq_false, if_false]
    refine .bind (createValue_trades current element shape expected) fun value _ => ?_
    exact .bindStep retain_trades fun _ _ => .ofPure rfl rfl
  · simp only [same, ne_eq, not_false_eq_true, if_true]
    exact .bindThrow rfl

theorem zeros_trades (current : Lineage.current runtime.environment) (shape : Shape) :
    TradesOr (reference runtime) (zeros element runtime shape)
      (fun tensor => tensor.assets + reference runtime) Whole (reference runtime) :=
  .bind (.ofMapFailure (.ofExcept _)) fun _ _ => create_trades current shape _

theorem destroy_trades {tensor : Tensor element} (whole : tensor.Whole) :
    Trades tensor.assets tensor.destroy (fun _ => 0) (fun after => after = destroyed) := by
  unfold destroy
  cases live : tensor.value with
  | none =>
      have empty : tensor.assets = 0 := by simp only [assets, live]
      rw [empty]
      exact .ofPure rfl rfl
  | some value =>
      cases loaded : tensor.runtime with
      | none => simp [Whole, live, loaded] at whole
      | some runtime =>
          have owned : tensor.assets = stake runtime ({value} + 0) := by
            simp only [assets, live, loaded, add_zero]
          rw [owned]
          exact .bind (release_trades value) fun _ _ =>
            .bind (letGo_trades runtime) fun _ _ => .ofPure rfl rfl

theorem discard_trades {tensor : Tensor element} (whole : tensor.Whole) :
    Trades tensor.assets tensor.discard (fun _ => 0) (fun _ => True) := by
  unfold discard
  refine .bind (destroy_trades whole) fun _ _ => ?_
  split
  · exact note_trades _ _
  · exact .ofPure trivial rfl

end

end TextVectors.Inference.Tensor
