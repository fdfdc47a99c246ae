import Mathlib.Algebra.BigOperators.Ring.List
import Mathlib.Algebra.Order.BigOperators.GroupWithZero.List
import Mathlib.Algebra.Order.Ring.Int
import Mathlib.Data.List.TakeWhile
import TextVectors.Proofs.Execution
import TextVectors.Shape

namespace TextVectors.Shape

/-! How many elements a shape has.

Counting multiplies from left to right and stops where the product leaves the range of sizes.  So
it is the dimensions in front of the first zero that have to fit, and whether a shape with a zero
has a count depends on the order of its dimensions.
-/

variable {shape : Shape} {dims others : List Int} {count total : Nat}

/-- No dimension is negative. -/
def Nonnegative (dims : List Int) : Prop :=
  ∀ dim ∈ dims, 0 ≤ dim

theorem nonnegative_cons (dim : Int) (rest : List Int) :
    Nonnegative (dim :: rest) ↔ 0 ≤ dim ∧ Nonnegative rest := by
  simp [Nonnegative]

/-- The dimensions in front of the first zero. -/
def leading (dims : List Int) : List Int :=
  dims.takeWhile (· ≠ 0)

theorem leading_cons (dim : Int) (rest : List Int) :
    leading (dim :: rest) = if dim = 0 then [] else dim :: leading rest := by
  by_cases zero : dim = 0 <;> simp [leading, zero]

theorem leading_of_nonzero (nonzero : 0 ∉ dims) : leading dims = dims := by
  refine List.takeWhile_eq_self_iff.mpr fun dim member => decide_eq_true fun zero => ?_
  exact nonzero (zero ▸ member)

theorem leading_append (nonzero : 0 ∉ dims) (others : List Int) :
    leading (dims ++ 0 :: others) = dims := by
  have kept : ∀ dim ∈ dims, decide (dim ≠ 0) = true :=
    fun dim member => decide_eq_true fun zero => nonzero (zero ▸ member)
  rw [leading, List.takeWhile_append_of_pos kept]
  simp

theorem mem_leading {dim : Int} (member : dim ∈ leading dims) : dim ∈ dims ∧ dim ≠ 0 := by
  have satisfied := List.mem_takeWhile_imp member
  exact ⟨(List.takeWhile_prefix _).subset member, of_decide_eq_true satisfied⟩

theorem leading_positive (nonnegative : Nonnegative dims) : 0 < (leading dims).prod := by
  refine List.prod_pos fun dim member => ?_
  obtain ⟨listed, nonzero⟩ := mem_leading member
  exact lt_of_le_of_ne (nonnegative dim listed) nonzero.symm

theorem prod_le_leading (nonnegative : Nonnegative dims) : dims.prod ≤ (leading dims).prod := by
  by_cases zero : 0 ∈ dims
  · rw [List.prod_eq_zero zero]
    exact le_of_lt (leading_positive nonnegative)
  · rw [leading_of_nonzero zero]

/-- The dimensions in front of the first zero are among all those that are not zero. -/
theorem leading_le_nonzero (nonnegative : Nonnegative dims) :
    (leading dims).prod ≤ (dims.filter (· ≠ 0)).prod := by
  obtain ⟨rest, parts⟩ : ∃ rest, leading dims ++ rest = dims := List.takeWhile_prefix _
  have kept : (leading dims).filter (· ≠ 0) = leading dims :=
    List.filter_eq_self.mpr fun dim member => decide_eq_true (mem_leading member).2
  have others : 0 < (rest.filter (· ≠ 0)).prod := by
    refine List.prod_pos fun dim member => ?_
    obtain ⟨listed, nonzero⟩ := List.mem_filter.mp member
    have inside : dim ∈ dims := parts ▸ List.mem_append_right _ listed
    exact lt_of_le_of_ne (nonnegative dim inside) (of_decide_eq_true nonzero).symm
  calc (leading dims).prod
    _ = (leading dims).prod * 1 := (Int.mul_one _).symm
    _ ≤ (leading dims).prod * (rest.filter (· ≠ 0)).prod :=
        Int.mul_le_mul_of_nonneg_left others (le_of_lt (leading_positive nonnegative))
    _ = ((leading dims ++ rest).filter (· ≠ 0)).prod := by
        rw [List.filter_append, kept, List.prod_append]
    _ = (dims.filter (· ≠ 0)).prod := by rw [parts]

/-- A dimension more has to fit as well, unless nothing is counted from there on. -/
theorem fits_cons (small : count < wordLimit) (nonnegative : Nonnegative dims) (size : Nat) :
    count * (leading ((size : Int) :: dims)).prod < wordLimit ↔
      count * size < wordLimit ∧ (count * size : Nat) * (leading dims).prod < wordLimit := by
  rw [leading_cons]
  by_cases zero : size = 0
  · subst zero
    have word : (count : Int) < wordLimit := Int.ofNat_lt.mpr small
    simpa [wordLimit] using word
  rw [if_neg (by omega), List.prod_cons, ← Int.mul_assoc, Int.natCast_mul]
  have atLeast : (count * size : Int) * 1 ≤ count * size * (leading dims).prod :=
    Int.mul_le_mul_of_nonneg_left (leading_positive nonnegative) (Int.natCast_nonneg (count * size))
  have cast : ((count * size : Nat) : Int) = count * size := Int.natCast_mul count size
  constructor
  · intro fits
    exact ⟨by omega, fits⟩
  · exact fun both => both.2

/-- Counting goes on as long as no dimension is negative and the product stays in range. -/
theorem countFrom_ok_iff (small : count < wordLimit) :
    shape.countFrom count dims = .ok total ↔
      Nonnegative dims ∧ (total : Int) = count * dims.prod ∧
        count * (leading dims).prod < wordLimit := by
  induction dims generalizing count with
  | nil =>
      simp only [countFrom, Nonnegative, leading, List.takeWhile_nil, List.prod_nil, Int.mul_one,
        Except.ok.injEq, Int.ofNat_lt, Int.ofNat_inj]
      simp [small, eq_comm]
  | cons dim rest ih =>
      rw [countFrom, nonnegative_cons]
      by_cases negative : dim < 0
      · rw [if_pos negative]
        simp [Int.not_le.mpr negative]
      obtain ⟨size, rfl⟩ := Int.eq_ofNat_of_zero_le (Int.not_lt.mp negative)
      rw [if_neg negative, Int.toNat_natCast, List.prod_cons, ← Int.mul_assoc]
      by_cases inside : count * size < wordLimit
      · rw [if_pos inside, ih inside, Int.natCast_mul]
        constructor
        · rintro ⟨nonnegative, same, fits⟩
          exact ⟨⟨Int.not_lt.mp negative, nonnegative⟩, same,
            (fits_cons small nonnegative size).mpr ⟨inside, fits⟩⟩
        · rintro ⟨⟨-, nonnegative⟩, same, fits⟩
          exact ⟨nonnegative, same, ((fits_cons small nonnegative size).mp fits).2⟩
      · rw [if_neg inside]
        refine ⟨nofun, ?_⟩
        rintro ⟨⟨-, nonnegative⟩, -, fits⟩
        exact (inside ((fits_cons small nonnegative size).mp fits).1).elim

theorem elementCount_ok_iff :
    elementCount ⟨dims⟩ = .ok total ↔
      Nonnegative dims ∧ (total : Int) = dims.prod ∧ (leading dims).prod < wordLimit := by
  have counted : countFrom ⟨dims⟩ 1 dims = .ok total ↔ _ := countFrom_ok_iff (by decide)
  rwa [Int.natCast_one, Int.one_mul, Int.one_mul] at counted

theorem toOption_elementCount :
    (elementCount ⟨dims⟩).toOption = some total ↔
      Nonnegative dims ∧ (total : Int) = dims.prod ∧ (leading dims).prod < wordLimit := by
  rw [← elementCount_ok_iff]
  cases elementCount ⟨dims⟩ <;> simp [Except.toOption]

section Orders

variable (perm : others.Perm dims)
include perm

theorem nonnegative_perm : Nonnegative others ↔ Nonnegative dims := by
  simp only [Nonnegative, perm.mem_iff]

/-- Orders that fit alike have the same outcome. -/
theorem elementCount_perm (fits : Nonnegative dims →
    ((leading others).prod < wordLimit ↔ (leading dims).prod < wordLimit)) :
    (elementCount ⟨others⟩).toOption = (elementCount ⟨dims⟩).toOption := by
  refine Option.ext fun total => ?_
  rw [toOption_elementCount, toOption_elementCount, nonnegative_perm perm, perm.prod_eq]
  exact and_congr_right fun nonnegative => and_congr_right fun _ => fits nonnegative

end Orders

/-- The zeros can be put last, behind all other dimensions. -/
theorem exists_zeros_last (zero : 0 ∈ dims) :
    ∃ others, others.Perm dims ∧ leading others = dims.filter (· ≠ 0) := by
  have parts := List.filter_append_perm (· ≠ 0) dims
  cases found : dims.filter fun dim => !decide (dim ≠ 0) with
  | nil =>
      have absurd : 0 ∈ dims.filter fun dim => !decide (dim ≠ 0) :=
        List.mem_filter.mpr ⟨zero, by simp⟩
      rw [found] at absurd
      cases absurd
  | cons dim rest =>
      have listed : dim ∈ dims.filter fun dim => !decide (dim ≠ 0) := found ▸ List.mem_cons_self
      obtain rfl : dim = 0 := by simpa using (List.mem_filter.mp listed).2
      rw [found] at parts
      exact ⟨_, parts, leading_append (by simp) rest⟩

/-- A shape has a count if no dimension is negative and those in front of the first zero fit, and
the count is the exact product.  So an exact product below the limit of sizes has no count where a
zero comes too late, and only such a zero makes the order of the dimensions matter. -/
theorem elementCount_exact (dims : List Int) :
    (∀ count, elementCount ⟨dims⟩ = .ok count ↔
      Nonnegative dims ∧ (count : Int) = dims.prod ∧ (leading dims).prod < wordLimit) ∧
    ((∀ count, elementCount ⟨dims⟩ = .ok count ↔
        Nonnegative dims ∧ (count : Int) = dims.prod ∧ dims.prod < wordLimit) ↔
      ¬ Nonnegative dims ∨ 0 ∉ dims ∨ (leading dims).prod < wordLimit) ∧
    ((∀ others, others.Perm dims →
        (elementCount ⟨others⟩).toOption = (elementCount ⟨dims⟩).toOption) ↔
      ¬ Nonnegative dims ∨ 0 ∉ dims ∨ (dims.filter (· ≠ 0)).prod < wordLimit) := by
  refine ⟨fun count => elementCount_ok_iff, ⟨fun precise => ?_, ?_⟩, ⟨fun same => ?_, ?_⟩⟩
  · by_cases nonnegative : Nonnegative dims
    · by_cases zero : 0 ∈ dims
      · have none : dims.prod = 0 := List.prod_eq_zero zero
        have counted := (precise 0).mpr ⟨nonnegative, none.symm, by rw [none]; decide⟩
        exact .inr (.inr (elementCount_ok_iff.mp counted).2.2)
      · exact .inr (.inl zero)
    · exact .inl nonnegative
  · intro harmless count
    rw [elementCount_ok_iff]
    refine and_congr_right fun nonnegative => and_congr_right fun _ => ?_
    rcases harmless with negative | nonzero | fits
    · exact (negative nonnegative).elim
    · rw [leading_of_nonzero nonzero]
    · exact iff_of_true fits (lt_of_le_of_lt (prod_le_leading nonnegative) fits)
  · by_cases nonnegative : Nonnegative dims
    · by_cases zero : 0 ∈ dims
      · -- The count is zero with a zero in front, so it has to be the same with all zeros last.
        have first : (elementCount ⟨0 :: dims.erase 0⟩).toOption = some 0 := by
          refine toOption_elementCount.mpr
            ⟨(nonnegative_perm (List.perm_cons_erase zero).symm).mpr nonnegative, by simp, ?_⟩
          simp [leading, wordLimit]
        obtain ⟨others, perm, last⟩ := exists_zeros_last zero
        rw [same _ (List.perm_cons_erase zero).symm, ← same others perm] at first
        have fits := (toOption_elementCount.mp first).2.2
        rw [last] at fits
        exact .inr (.inr fits)
      · exact .inr (.inl zero)
    · exact .inl nonnegative
  · intro harmless others perm
    refine elementCount_perm perm fun nonnegative => ?_
    rcases harmless with negative | nonzero | fits
    · exact (negative nonnegative).elim
    · rw [leading_of_nonzero nonzero, leading_of_nonzero (perm.mem_iff.not.mpr nonzero),
        perm.prod_eq]
    · have fitsToo := fits
      rw [← (perm.filter _).prod_eq] at fitsToo
      exact iff_of_true
        (lt_of_le_of_lt (leading_le_nonzero ((nonnegative_perm perm).mpr nonnegative)) fitsToo)
        (lt_of_le_of_lt (leading_le_nonzero nonnegative) fits)

/-- Two dimensions of half a word each are too many elements, and a zero behind them does not help.
With the zero in front, or with one of them, the count is zero. -/
theorem late_zero_overflows :
    Nonnegative [4294967296, 4294967296, 0] ∧
      ([4294967296, 4294967296, 0] : List Int).prod = 0 ∧
      elementCount ⟨[4294967296, 4294967296, 0]⟩ =
        .error (.overflow ⟨[4294967296, 4294967296, 0]⟩) ∧
      elementCount ⟨[0, 4294967296, 4294967296]⟩ = .ok 0 ∧
      [0, 4294967296, 4294967296].Perm ([4294967296, 4294967296, 0] : List Int) :=
  ⟨by simp [Nonnegative], by decide, by decide, by decide, by decide⟩

end TextVectors.Shape
