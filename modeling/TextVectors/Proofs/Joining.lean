import TextVectors.Embedding.Error

namespace TextVectors

/-! Joined failures.

Two families of errors join failures, and both in the same way.  What holds of joining is proved for
any family in which one error can stand for several, and then said of the two.
-/

namespace Joining

/-- One error can stand for several: they are its parts, and its text is made of theirs.  Any other
error is its own only part. -/
structure Gathers {ε : Type} (multiple : List ε → ε) (parts : ε → List ε) (message : ε → String) :
    Prop where
  parts_multiple : ∀ members, parts (multiple members) = members
  parts_other : ∀ error, (∀ members, error ≠ multiple members) → parts error = [error]
  message_multiple : ∀ members,
    message (multiple members) = String.intercalate "; " (members.map message)

section Family

variable {ε : Type} {multiple : List ε → ε} {parts : ε → List ε} {message : ε → String}
variable {errors first second members : List ε} {error : ε}

/-- Every error stands for itself. -/
def Plain (multiple : List ε → ε) (errors : List ε) : Prop :=
  ∀ error ∈ errors, ∀ members, error ≠ multiple members

/-- An error that stands for several has some, and each of them stands for itself. -/
def Shallow (multiple : List ε → ε) (errors : List ε) : Prop :=
  ∀ members, multiple members ∈ errors → members ≠ [] ∧ Plain multiple members

/-- One error for a list of them. -/
def gather (multiple : List ε → ε) (flat : List ε) : Option ε :=
  match flat with
  | [] => none
  | [error] => some error
  | flat => some (multiple flat)

theorem gather_eq_none_iff : gather multiple errors = none ↔ errors = [] := by
  match errors with
  | [] => exact iff_of_true rfl rfl
  | [_] => exact iff_of_false nofun nofun
  | _ :: _ :: _ => exact iff_of_false nofun nofun

namespace Gathers

variable (gathers : Gathers multiple parts message)
include gathers

theorem parts_cases (error : ε) :
    (∃ members, error = multiple members ∧ parts error = members) ∨
      (∀ members, error ≠ multiple members) ∧ parts error = [error] := by
  by_cases several : ∃ members, error = multiple members
  · obtain ⟨members, rfl⟩ := several
    exact .inl ⟨members, rfl, gathers.parts_multiple members⟩
  · have single : ∀ members, error ≠ multiple members := fun members same => several ⟨members, same⟩
    exact .inr ⟨single, gathers.parts_other error single⟩

theorem parts_ne_nil (some : multiple [] ∉ errors) (member : error ∈ errors) :
    parts error ≠ [] := by
  rcases gathers.parts_cases error with ⟨members, rfl, same⟩ | ⟨-, same⟩
  · rw [same]
    rintro rfl
    exact some member
  · rw [same]
    exact List.cons_ne_nil error []

theorem flatMap_parts_eq_nil_iff (some : multiple [] ∉ errors) :
    errors.flatMap parts = [] ↔ errors = [] := by
  rw [List.flatMap_eq_nil_iff]
  constructor
  · intro nothing
    refine List.eq_nil_iff_forall_not_mem.mpr fun error member => ?_
    exact gathers.parts_ne_nil some member (nothing error member)
  · rintro rfl error ⟨⟩

/-- The text of an error is made of the texts of its parts. -/
theorem message_parts (error : ε) :
    String.intercalate "; " ((parts error).map message) = message error := by
  rcases gathers.parts_cases error with ⟨members, rfl, same⟩ | ⟨-, same⟩
  · rw [same, gathers.message_multiple]
  · rw [same, List.map_singleton, String.intercalate_singleton]

theorem messages_flatMap (some : multiple [] ∉ errors) :
    String.intercalate "; " ((errors.flatMap parts).map message) =
      String.intercalate "; " (errors.map message) := by
  induction errors with
  | nil => rfl
  | cons error rest ih =>
      have someRest : multiple [] ∉ rest := fun member => some (List.mem_cons_of_mem error member)
      by_cases last : rest = []
      · subst last
        rw [List.flatMap_singleton, List.map_singleton, String.intercalate_singleton]
        exact gathers.message_parts error
      · have here : (parts error).map message ≠ [] :=
          mt List.map_eq_nil_iff.mp (gathers.parts_ne_nil some List.mem_cons_self)
        have later : (rest.flatMap parts).map message ≠ [] :=
          fun nothing => last ((gathers.flatMap_parts_eq_nil_iff someRest).mp
            (List.map_eq_nil_iff.mp nothing))
        rw [List.flatMap_cons, List.map_append, String.intercalate_append_of_ne_nil here later,
          ih someRest, gathers.message_parts, List.map_cons,
          String.intercalate_cons_of_ne_nil (mt List.map_eq_nil_iff.mp last)]

/-- Gathering keeps the text. -/
theorem message_gather (found : gather multiple errors = some error) :
    message error = String.intercalate "; " (errors.map message) := by
  match errors, found with
  | [_], rfl => rw [List.map_singleton, String.intercalate_singleton]
  | first :: second :: rest, rfl => exact gathers.message_multiple (first :: second :: rest)

theorem plain_flatMap_parts (shallow : Shallow multiple errors) :
    Plain multiple (errors.flatMap parts) := by
  intro part member
  obtain ⟨error, listed, inside⟩ := List.mem_flatMap.mp member
  rcases gathers.parts_cases error with ⟨members, rfl, same⟩ | ⟨single, same⟩
  · rw [same] at inside
    exact (shallow members listed).2 part inside
  · rw [same] at inside
    rw [List.mem_singleton.mp inside]
    exact single

/-- What stands for several errors that stand for themselves has just them as its parts; so has a
single one. -/
theorem parts_gather (plain : Plain multiple errors) :
    (gather multiple errors).toList.flatMap parts = errors := by
  match errors, plain with
  | [], _ => rfl
  | [error], plain =>
      change [error].flatMap parts = [error]
      rw [List.flatMap_singleton,
        gathers.parts_other error (plain error (List.mem_singleton_self error))]
  | first :: second :: rest, _ =>
      change [multiple (first :: second :: rest)].flatMap parts = first :: second :: rest
      rw [List.flatMap_singleton, gathers.parts_multiple]

/-- An error gathered from such as stand for themselves stands for several only if there are two of
them at least. -/
theorem members_of_gather (plain : Plain multiple errors)
    (found : gather multiple errors = some (multiple members)) :
    2 ≤ members.length ∧ Plain multiple members := by
  match errors, plain, found with
  | [error], plain, found =>
      exact (plain error (List.mem_singleton_self error) members (Option.some.inj found)).elim
  | first :: second :: rest, plain, found =>
      have same : first :: second :: rest = members := by
        rw [← gathers.parts_multiple (first :: second :: rest), Option.some.inj found,
          gathers.parts_multiple]
      subst same
      exact ⟨by simp, plain⟩

theorem gather_assoc (shallow : Shallow multiple first) (shallowToo : Shallow multiple second) :
    gather multiple (((gather multiple (first.flatMap parts)).toList ++
      (gather multiple (second.flatMap parts)).toList).flatMap parts) =
        gather multiple ((first ++ second).flatMap parts) := by
  rw [List.flatMap_append, gathers.parts_gather (gathers.plain_flatMap_parts shallow),
    gathers.parts_gather (gathers.plain_flatMap_parts shallowToo), List.flatMap_append]

end Gathers

/-- Joining drops no error and no text. -/
structure Lossless (multiple : List ε → ε) (message : ε → String) (join : List ε → Option ε) :
    Prop where
  none_iff : ∀ errors, multiple [] ∉ errors → (join errors = none ↔ errors = [])
  message_join : ∀ errors, multiple [] ∉ errors → ∀ joined, join errors = some joined →
    message joined = String.intercalate "; " (errors.map message)
  members : ∀ errors, Shallow multiple errors → ∀ members,
    join errors = some (multiple members) → 2 ≤ members.length ∧ Plain multiple members
  assoc : ∀ first second, Shallow multiple first → Shallow multiple second →
    join ((join first).toList ++ (join second).toList) = join (first ++ second)

theorem Gathers.lossless (gathers : Gathers multiple parts message) {join : List ε → Option ε}
    (joins : ∀ errors, join errors = gather multiple (errors.flatMap parts)) :
    Lossless multiple message join where
  none_iff errors some := by
    rw [joins, gather_eq_none_iff, gathers.flatMap_parts_eq_nil_iff some]
  message_join errors some joined found := by
    rw [joins] at found
    rw [gathers.message_gather found, gathers.messages_flatMap some]
  members errors shallow members found := by
    rw [joins] at found
    exact gathers.members_of_gather (gathers.plain_flatMap_parts shallow) found
  assoc first second shallow shallowToo := by
    rw [joins, joins first, joins second, joins (first ++ second)]
    exact gathers.gather_assoc shallow shallowToo

end Family

end Joining

open Joining

namespace EmbeddingError

theorem messages_eq (errors : List EmbeddingError) : messages errors = errors.map message := by
  induction errors with
  | nil => rfl
  | cons error rest ih => exact congrArg (error.message :: ·) ih

theorem gathers : Gathers multiple parts message where
  parts_multiple _ := rfl
  parts_other error single := by
    cases error with
    | multiple members => exact (single members rfl).elim
    | _ => rfl
  message_multiple members := congrArg (String.intercalate "; ") (messages_eq members)

theorem join_eq (errors : List EmbeddingError) :
    join errors = gather multiple (errors.flatMap parts) := by
  unfold join
  cases errors.flatMap parts with
  | nil => rfl
  | cons first rest => cases rest <;> rfl

end EmbeddingError

namespace Inference.RuntimeError

theorem messages_eq (errors : List RuntimeError) : messages errors = errors.map message := by
  induction errors with
  | nil => rfl
  | cons error rest ih => exact congrArg (error.message :: ·) ih

theorem gathers : Gathers multiple parts message where
  parts_multiple _ := rfl
  parts_other error single := by
    cases error with
    | multiple members => exact (single members rfl).elim
    | _ => rfl
  message_multiple members := congrArg (String.intercalate "; ") (messages_eq members)

theorem join_eq (errors : List RuntimeError) :
    join errors = gather multiple (errors.flatMap parts) := by
  unfold join
  cases errors.flatMap parts with
  | nil => rfl
  | cons first rest => cases rest <;> rfl

end Inference.RuntimeError

/-- In both families joining keeps every error and every text, however deep the errors are.  Errors
that stand for several at most one level deep are joined into one that does so too, and it makes no
difference whether they are joined in one go or in two. -/
theorem joining_lossless :
    Lossless EmbeddingError.multiple EmbeddingError.message EmbeddingError.join ∧
      Lossless Inference.RuntimeError.multiple Inference.RuntimeError.message
        Inference.RuntimeError.join :=
  ⟨EmbeddingError.gathers.lossless EmbeddingError.join_eq,
    Inference.RuntimeError.gathers.lossless Inference.RuntimeError.join_eq⟩

/-- A list of failures, one of them with a list inside its source. -/
def nestedFailures : EmbeddingError :=
  .multiple [.closed, .context "cache" (.multiple [.closed, .fileNotFound "a"])]

/-- Joined to one more failure, a list shows each of its members once and in their order. -/
theorem nested_failures_joined :
    Shallow EmbeddingError.multiple [nestedFailures] ∧
      Shallow EmbeddingError.multiple [.fileNotFound "b"] ∧
      EmbeddingError.join ((EmbeddingError.join [nestedFailures]).toList ++
        (EmbeddingError.join [.fileNotFound "b"]).toList) =
          EmbeddingError.join [nestedFailures, .fileNotFound "b"] ∧
      ∃ joined, EmbeddingError.join [nestedFailures, .fileNotFound "b"] = some joined ∧
        joined.message = "Embedder has been closed; " ++
          "cache: Embedder has been closed; File not found: a; File not found: b" := by
  have shallow : Shallow EmbeddingError.multiple [nestedFailures] := by
    intro members member
    cases List.mem_singleton.mp member
    exact ⟨nofun, by simp [Plain]⟩
  have shallowToo : Shallow EmbeddingError.multiple [.fileNotFound "b"] := by
    intro members member
    cases List.mem_singleton.mp member
  have nonempty : .multiple [] ∉ [nestedFailures, EmbeddingError.fileNotFound "b"] := by
    simp [nestedFailures]
  have laws := joining_lossless.1
  refine ⟨shallow, shallowToo, laws.assoc _ _ shallow shallowToo, _, rfl, ?_⟩
  rw [laws.message_join _ nonempty _ rfl]
  rfl

end TextVectors
