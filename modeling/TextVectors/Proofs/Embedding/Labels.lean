import Mathlib.Data.List.Forall2
import TextVectors.Proofs.Embedding.Sparse
import TextVectors.Proofs.Embedding.Transparency

namespace TextVectors

/-! Labels are remembered and not seen to be.

Each label that is remembered is what the tokenizer decodes, so labelling vectors ends as it would
without a memory.  Over all calls that share a memory each index is decoded with success at most
once.
-/

section Computation

variable {ε α β : Type} {operation : α → Except ε β} {values : List α} {results : List β}
variable {error : ε}

theorem forall₂_of_mapM_ok (succeeded : values.mapM operation = .ok results) :
    List.Forall₂ (fun value result => operation value = .ok result) values results := by
  induction values generalizing results with
  | nil =>
      cases succeeded
      exact .nil
  | cons value values ih =>
      rw [List.mapM_cons] at succeeded
      obtain ⟨result, first, succeeded⟩ := ok_of_bind succeeded
      obtain ⟨others, rest, succeeded⟩ := ok_of_bind succeeded
      cases succeeded
      exact .cons first (ih rest)

/-- What fails in a list is the first member that fails. -/
theorem first_of_mapM_error (failed : values.mapM operation = .error error) :
    ∃ before value after, values = before ++ value :: after ∧
      (∀ earlier ∈ before, ∃ result, operation earlier = .ok result) ∧
      operation value = .error error := by
  induction values with
  | nil => cases failed
  | cons value values ih =>
      rw [List.mapM_cons] at failed
      rcases error_of_bind failed with here | ⟨result, passed, later⟩
      · exact ⟨[], value, values, rfl, nofun, here⟩
      · rcases error_of_bind later with rest | ⟨others, -, impossible⟩
        · obtain ⟨before, other, after, rfl, earlier, refused⟩ := ih rest
          exact ⟨value :: before, other, after, rfl,
            List.forall_mem_cons.mpr ⟨⟨result, passed⟩, earlier⟩, refused⟩
        · cases impossible

end Computation

namespace SparseEmbedder

open Engine EmbedAction

variable {tokenizer : Tokenizer} {asked : List Consultation} {labels : List (Nat × String)}
variable {index : Nat} {label : String} {start : Engine} {state : EmbedState}
variable {vector result : SparseVector} {vectors : List SparseVector} {error : EmbeddingError}

/-- Labels and questions that belong together: a label is what its index is decoded as, questions
are about single indices, and those that were answered are the ones whose answers are remembered. -/
structure Remembers (tokenizer : Tokenizer) (asked : List Consultation)
    (labels : List (Nat × String)) : Prop where
  decoded : ∀ entry ∈ labels, entry.1 < halfWordLimit ∧
    tokenizer.decode [entry.1] false = .ok entry.2
  single : ∀ question ∈ asked, ∃ index, question = .decode [index] false
  once : ∀ index label, tokenizer.decode [index] false = .ok label →
    asked.count (.decode [index] false) = if index ∈ labels.map (·.1) then 1 else 0

namespace Remembers

theorem nothing (tokenizer : Tokenizer) : Remembers tokenizer [] [] :=
  ⟨nofun, nofun, fun _ _ _ => rfl⟩

variable (remembers : Remembers tokenizer asked labels)
include remembers

theorem asked_single (index : Nat) :
    ∀ question ∈ asked ++ [.decode [index] false], ∃ index, question = .decode [index] false := by
  intro question member
  rcases List.mem_append.mp member with before | now
  · exact remembers.single question before
  · exact ⟨index, List.mem_singleton.mp now⟩

theorem learns (small : index < halfWordLimit) (unknown : labels.lookup index = none)
    (decoded : tokenizer.decode [index] false = .ok label) :
    Remembers tokenizer (asked ++ [.decode [index] false]) ((index, label) :: labels) where
  decoded := List.forall_mem_cons.mpr ⟨⟨small, decoded⟩, remembers.decoded⟩
  single := remembers.asked_single index
  once := by
    intro other label answered
    rw [List.count_append, remembers.once other label answered, List.map_cons]
    by_cases same : other = index
    · subst same
      rw [if_neg (lookup_eq_none.mp unknown), if_pos List.mem_cons_self, List.count_singleton_self]
    · have kept : other ∈ index :: labels.map (·.1) ↔ other ∈ labels.map (·.1) :=
        List.mem_cons.trans (or_iff_right same)
      rw [if_congr kept rfl rfl, List.count_singleton]
      simp [Ne.symm same]

theorem refused {fault : TokenizerError} (failed : tokenizer.decode [index] false = .error fault) :
    Remembers tokenizer (asked ++ [.decode [index] false]) labels where
  decoded := remembers.decoded
  single := remembers.asked_single index
  once := by
    intro other label answered
    have different : index ≠ other := by
      rintro rfl
      rw [failed] at answered
      cases answered
    rw [List.count_append, remembers.once other label answered, List.count_singleton]
    simp [different]

end Remembers

/-- What is remembered belongs to what was asked before and since a moment. -/
def Since (tokenizer : Tokenizer) (asked : List Consultation) (start : Engine)
    (state : EmbedState) : Prop :=
  ∃ newer, state.engine.consultations = newer ++ start.consultations ∧
    Remembers tokenizer (asked ++ newer.reverse) state.labels

theorem Remembers.since (remembers : Remembers tokenizer asked state.labels) :
    Since tokenizer asked state.engine state := by
  refine ⟨[], rfl, ?_⟩
  rwa [List.reverse_nil, List.append_nil]

theorem since_follows (index : Nat) :
    Follows (Since tokenizer asked start) (labelOf tokenizer index) (labelFor tokenizer index) := by
  have asking {state : EmbedState} {newer : List Consultation}
      (grown : state.engine.consultations = newer ++ start.consultations) :
      (Engine.consult (.decode [index] false) state.engine).2.consultations =
        (.decode [index] false :: newer) ++ start.consultations :=
    congrArg (List.cons (Consultation.decode [index] false)) grown
  have askedToo (newer : List Consultation) : asked ++ (.decode [index] false :: newer).reverse =
      asked ++ newer.reverse ++ [.decode [index] false] := by
    rw [List.reverse_cons, List.append_assoc]
  refine labelOf_follows ?_ ?_ ?_
  · rintro state ⟨newer, -, remembers⟩
    exact remembers.decoded
  · rintro state label ⟨newer, grown, remembers⟩ unknown small decoded
    exact ⟨_, asking grown, askedToo newer ▸ remembers.learns small unknown decoded⟩
  · rintro state fault ⟨newer, grown, remembers⟩ failed
    exact ⟨_, asking grown, askedToo newer ▸ remembers.refused failed⟩

theorem attachLabels_follows (vector : SparseVector) :
    Follows (Since tokenizer asked start) (attachLabels tokenizer vector)
      (labelled tokenizer vector) := by
  unfold attachLabels labelled
  split
  · exact .ofPure vector
  · exact (Follows.mapM since_follows vector.indices).bind fun _ => .ofPure _

theorem labels_follow (vectors : List SparseVector) :
    Follows (Since tokenizer asked start) (vectors.mapM (attachLabels tokenizer))
      (vectors.mapM (labelled tokenizer)) :=
  .mapM attachLabels_follows vectors

/-! ### Labelling without a memory -/

theorem labelFor_ok (found : labelFor tokenizer index = .ok label) :
    tokenizer.decode [index] false = .ok label := by
  unfold labelFor at found
  split at found
  · cases found
  · exact ok_of_mapError found

/-- Why an index has no label. -/
def Unlabelled (tokenizer : Tokenizer) (index : Nat) (error : EmbeddingError) : Prop :=
  (index < halfWordLimit ∧ ∃ fault, tokenizer.decode [index] false = .error fault ∧
      error = .context s!"failed to decode sparse index {index}" (.tokenizer fault)) ∨
    (halfWordLimit ≤ index ∧ error = .invalidInput (.indexTooLarge index))

theorem labelFor_error (failed : labelFor tokenizer index = .error error) :
    Unlabelled tokenizer index error := by
  unfold labelFor at failed
  split at failed
  · rename_i large
    cases failed
    exact .inr ⟨large, rfl⟩
  · rename_i small
    obtain ⟨fault, refused, rfl⟩ := error_of_mapError failed
    exact .inl ⟨Nat.not_le.mp small, fault, refused, rfl⟩

/-- A vector and the same vector with the labels of its indices.  Without an index there is nothing
to label. -/
structure Labelled (tokenizer : Tokenizer) (vector result : SparseVector) : Prop where
  indices : result.indices = vector.indices
  values : result.values = vector.values
  empty : vector.indices = [] → result = vector
  labels : vector.indices ≠ [] → ∃ labels, result.labels = some labels ∧
    List.Forall₂ (fun index label => tokenizer.decode [index] false = .ok label)
      vector.indices labels

theorem labelled_ok (found : labelled tokenizer vector = .ok result) :
    Labelled tokenizer vector result := by
  unfold labelled at found
  split at found
  · rename_i empty
    cases found
    exact ⟨rfl, rfl, fun _ => rfl, fun some => (some (List.isEmpty_iff.mp empty)).elim⟩
  · rename_i some
    obtain ⟨labels, each, found⟩ := ok_of_bind found
    cases found
    refine ⟨rfl, rfl, fun none => ?_, fun _ => ⟨labels, rfl, ?_⟩⟩
    · exact (some (List.isEmpty_iff.mpr none)).elim
    · exact (forall₂_of_mapM_ok each).imp fun _ _ => labelFor_ok

/-- An index without a label ends the labelling: the first among all vectors. -/
theorem first_unlabelled (failed : vectors.mapM (labelled tokenizer) = .error error) :
    ∃ before index after, vectors.flatMap (·.indices) = before ++ index :: after ∧
      (∀ earlier ∈ before, ∃ label, tokenizer.decode [earlier] false = .ok label) ∧
      Unlabelled tokenizer index error := by
  obtain ⟨front, vector, back, rfl, passed, refused⟩ := first_of_mapM_error failed
  unfold labelled at refused
  split at refused
  · cases refused
  · rcases error_of_bind refused with indices | ⟨labels, -, impossible⟩
    · obtain ⟨before, index, after, split, earlier, last⟩ := first_of_mapM_error indices
      refine ⟨front.flatMap (·.indices) ++ before, index, after ++ back.flatMap (·.indices), ?_, ?_,
        labelFor_error last⟩
      · rw [List.flatMap_append, List.flatMap_cons, split]
        simp only [List.append_assoc, List.cons_append]
      · intro index member
        rcases List.mem_append.mp member with inFront | inVector
        · obtain ⟨other, among, listed⟩ := List.mem_flatMap.mp inFront
          obtain ⟨result, done⟩ := passed other among
          have some : other.indices ≠ [] := List.ne_nil_of_mem listed
          obtain ⟨labels, -, each⟩ := (labelled_ok done).labels some
          have decodes : List.Forall₂ (fun index _ =>
              (∃ label, tokenizer.decode [index] false = .ok label) ∧ True) other.indices labels :=
            each.imp fun _ label found => ⟨⟨label, found⟩, trivial⟩
          exact ((List.forall₂_and_left _ _).mp decodes).1 index listed
        · obtain ⟨label, found⟩ := earlier index inVector
          exact ⟨label, labelFor_ok found⟩
    · cases impossible

/-! ### Calls that share a memory -/

/-- The state in which an operation ends, with success or without. -/
def lastState {σ ε α : Type} : EStateM.Result ε σ α → σ
  | .ok _ state => state
  | .error _ state => state

/-- A memory that was empty once, and what the tokenizer was asked by the calls since.  Between the
calls anything may happen that leaves the labels alone. -/
inductive Shared (tokenizer : Tokenizer) : EmbedState → List Consultation → Prop
  | empty {state : EmbedState} : state.labels = [] → Shared tokenizer state []
  | called {state after : EmbedState} {asked : List Consultation} (vectors : List SparseVector) :
      Shared tokenizer state asked →
        after = lastState (vectors.mapM (attachLabels tokenizer) state) →
          Shared tokenizer after (asked ++ after.engine.consultationsSince state.engine)
  | elsewhere {state later : EmbedState} {asked : List Consultation} :
      Shared tokenizer state asked → later.labels = state.labels → Shared tokenizer later asked

theorem Shared.remembers (shared : Shared tokenizer state asked) :
    Remembers tokenizer asked state.labels := by
  induction shared with
  | empty none =>
      rw [none]
      exact .nothing tokenizer
  | @called state after asked vectors _ ended remembers =>
      have reached := labels_follow vectors state remembers.since
      have sinceToo : Since tokenizer asked state.engine after := by
        rw [ended]
        cases called : vectors.mapM (attachLabels tokenizer) state <;> rw [called] at reached <;>
          exact reached.1
      obtain ⟨newer, grown, remembersToo⟩ := sinceToo
      rwa [consultationsSince, grown, gained_append]
  | elsewhere _ same remembers =>
      rw [same]
      exact remembers

/-- Whatever calls there were before, with success or without, what is remembered is what the
tokenizer decodes, and each index was decoded with success at most once.  The next call labels all
vectors as the tokenizer decodes their indices, or names the first index that it does not decode. -/
theorem labels_memoized (shared : Shared tokenizer state asked) :
    (∀ index label, (index, label) ∈ state.labels →
      tokenizer.decode [index] false = .ok label) ∧
    (∀ question ∈ asked, ∃ index, question = .decode [index] false) ∧
    (∀ index label, tokenizer.decode [index] false = .ok label →
      asked.count (.decode [index] false) = if index ∈ state.labels.map (·.1) then 1 else 0) ∧
    ∀ vectors : List SparseVector,
      EndsIn (fun results _ => List.Forall₂ (Labelled tokenizer) vectors results)
        (fun error _ => ∃ before index after,
          vectors.flatMap (·.indices) = before ++ index :: after ∧
          (∀ earlier ∈ before, ∃ label, tokenizer.decode [earlier] false = .ok label) ∧
          index ∉ state.labels.map (·.1) ∧ Unlabelled tokenizer index error)
        (vectors.mapM (attachLabels tokenizer) state) := by
  have remembers := shared.remembers
  refine ⟨fun index label member => (remembers.decoded _ member).2, remembers.single,
    remembers.once, fun vectors => ?_⟩
  have reached := labels_follow vectors state remembers.since
  cases called : vectors.mapM (attachLabels tokenizer) state with
  | ok results after =>
      rw [called] at reached
      exact (forall₂_of_mapM_ok reached.2).imp fun _ _ => labelled_ok
  | error error after =>
      rw [called] at reached
      obtain ⟨before, index, rest, split, earlier, unlabelled⟩ := first_unlabelled reached.2
      refine ⟨before, index, rest, split, earlier, fun known => ?_, unlabelled⟩
      obtain ⟨entry, member, rfl⟩ := List.mem_map.mp known
      obtain ⟨small, decoded⟩ := remembers.decoded entry member
      rcases unlabelled with ⟨-, fault, failed, -⟩ | ⟨large, -⟩
      · rw [decoded] at failed
        cases failed
      · exact Nat.not_le.mpr small large

section Trial

/-- Decodes all ids but one. -/
def unluckyTokenizer : Tokenizer where
  encode _ := .error (.encodeFailed "no texts")
  decode
    | [13], _ => .error (.decodeFailed "unlucky")
    | [id], _ => .ok s!"tok{id}"
    | _, _ => .error (.invalidInput "one id at a time")
  vocabularySize := some 32

def vectorOf (indices : List Nat) : SparseVector :=
  .ofEntries (indices.map fun index => (index, Binary32.zero))

def unlabelledState : EmbedState where
  sessions := ⟨8, [], []⟩
  labels := []
  engine := trialEngine

/-- After a call that fails on its way no label is lost, and none is asked for again. -/
theorem labels_kept_by_failed_call :
    ∃ state, state.labels = [(5, "tok5"), (1, "tok1")] ∧
      Shared unluckyTokenizer state
        [.decode [1] false, .decode [5] false, .decode [13] false] ∧
      (∀ index label, (index, label) ∈ state.labels →
        unluckyTokenizer.decode [index] false = .ok label) ∧
      EndsIn
        (fun results _ => List.Forall₂ (Labelled unluckyTokenizer) [vectorOf [5, 7]] results)
        (fun _ _ => False) ([vectorOf [5, 7]].mapM (attachLabels unluckyTokenizer) state) := by
  have start : Shared unluckyTokenizer unlabelledState [] := .empty rfl
  have shared := start.called [vectorOf [1, 5], vectorOf [], vectorOf [5, 13, 7]] rfl
  obtain ⟨decoded, -, -, next⟩ := labels_memoized shared
  refine ⟨_, rfl, shared, decoded, ?_⟩
  exact next [vectorOf [5, 7]]

end Trial

end SparseEmbedder

end TextVectors
