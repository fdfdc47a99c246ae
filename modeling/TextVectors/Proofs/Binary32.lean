import Mathlib
import TextVectors.Binary32

namespace TextVectors.Binary32

/-! The order of binary32 numbers.

Numbers are compared by a key.  The infinities are outermost, zeros of both signs are the same,
and finite numbers of one sign go by exponent and then by significand.  What is no number has
the least key and compares with nothing.
-/

open Float.Model Float.Model.UnpackedFloat

/-- Keys are in lexicographic order. -/
abbrev Key := WithBot (ℤ ×ₗ ℤ ×ₗ ℤ)

def keyOf (kind exponent significand : ℤ) : Key :=
  (toLex (kind, toLex (exponent, significand)) : ℤ ×ₗ ℤ ×ₗ ℤ)

def unpackedKey : UnpackedFloat → Key
  | .notANumber => ⊥
  | .infinity .negative => keyOf (-2) 0 0
  | .infinity .positive => keyOf 2 0 0
  | .zero _ => keyOf 0 0 0
  | .finite .negative significand exponent _ => keyOf (-1) (-exponent) (-significand)
  | .finite .positive significand exponent _ => keyOf 1 exponent significand

def key (x : Float32) : Key :=
  unpackedKey x.toModel.unpack

section Keys

variable {kind exponent significand kind' exponent' significand' : ℤ}

theorem keyOf_ne_bot : keyOf kind exponent significand ≠ ⊥ :=
  WithBot.coe_ne_bot

theorem keyOf_lt : keyOf kind exponent significand < keyOf kind' exponent' significand' ↔
    kind < kind' ∨ kind = kind' ∧
      (exponent < exponent' ∨ exponent = exponent' ∧ significand < significand') := by
  simp only [keyOf, WithBot.coe_lt_coe, Prod.Lex.toLex_lt_toLex]

theorem keyOf_le : keyOf kind exponent significand ≤ keyOf kind' exponent' significand' ↔
    kind < kind' ∨ kind = kind' ∧
      (exponent < exponent' ∨ exponent = exponent' ∧ significand ≤ significand') := by
  simp only [keyOf, WithBot.coe_le_coe, Prod.Lex.toLex_le_toLex]

theorem keyOf_inj : keyOf kind exponent significand = keyOf kind' exponent' significand' ↔
    kind = kind' ∧ exponent = exponent' ∧ significand = significand' := by
  simp only [keyOf, WithBot.coe_inj, toLex_inj, Prod.mk.injEq]

end Keys

theorem then_eq_lt_iff {exponent exponent' : ℤ} {significand significand' : ℕ} :
    (compare exponent exponent').then (compare significand significand') = .lt ↔
      exponent < exponent' ∨ exponent = exponent' ∧ significand < significand' := by
  rw [Ordering.then_eq_lt, compare_lt_iff_lt, compare_eq_iff_eq, compare_lt_iff_lt]

theorem then_eq_gt_iff {exponent exponent' : ℤ} {significand significand' : ℕ} :
    (compare exponent exponent').then (compare significand significand') = .gt ↔
      exponent' < exponent ∨ exponent = exponent' ∧ significand' < significand := by
  rw [Ordering.then_eq_gt, compare_gt_iff_gt, compare_eq_iff_eq, compare_gt_iff_gt]

theorem unpacked_lt_iff (a b : UnpackedFloat) :
    a.lt b = true ↔ unpackedKey a ≠ ⊥ ∧ unpackedKey a < unpackedKey b := by
  rcases a with (_ | _) | _ | _ | ⟨_ | _, significand, exponent, _⟩ <;>
    rcases b with (_ | _) | _ | _ | ⟨_ | _, significand', exponent', _⟩ <;>
    simp [unpackedKey, UnpackedFloat.lt, UnpackedFloat.compare, keyOf_lt, keyOf_ne_bot,
      then_eq_lt_iff, then_eq_gt_iff]
  case infinity.negative.infinity.positive => rfl

theorem unpacked_le_iff (a b : UnpackedFloat) :
    a.le b = true ↔ unpackedKey a ≠ ⊥ ∧ unpackedKey a ≤ unpackedKey b := by
  rcases a with (_ | _) | _ | _ | ⟨_ | _, significand, exponent, _⟩ <;>
    rcases b with (_ | _) | _ | _ | ⟨_ | _, significand', exponent', _⟩ <;>
    simp [unpackedKey, UnpackedFloat.le, UnpackedFloat.compare, keyOf_le, keyOf_ne_bot,
      Ordering.isLE_iff_ne_gt, then_eq_gt_iff]
  case infinity.positive.infinity.negative => rfl
  case finite.negative.finite.negative =>
    rw [Ordering.isGE_iff_ne_lt, then_eq_lt_iff]
    omega
  case finite.positive.finite.positive => omega

theorem unpacked_beq_iff (a b : UnpackedFloat) :
    a.beq b = true ↔ unpackedKey a ≠ ⊥ ∧ unpackedKey a = unpackedKey b := by
  rcases a with (_ | _) | _ | _ | ⟨_ | _, significand, exponent, _⟩ <;>
    rcases b with (_ | _) | _ | _ | ⟨_ | _, significand', exponent', _⟩ <;>
    simp [unpackedKey, UnpackedFloat.beq, UnpackedFloat.compare, keyOf_inj, keyOf_ne_bot,
      keyOf_ne_bot.symm, Ordering.then_eq_eq]
  case infinity.negative.infinity.negative => rfl
  case infinity.positive.infinity.positive => rfl

variable {a b c : Float32}

theorem lt_iff : a < b ↔ key a ≠ ⊥ ∧ key a < key b := by
  rw [key, key, ← unpacked_lt_iff]
  exact decide_eq_true_iff

theorem le_iff : a ≤ b ↔ key a ≠ ⊥ ∧ key a ≤ key b := by
  rw [key, key, ← unpacked_le_iff]
  exact decide_eq_true_iff

/-- Equality of numbers, by which zeros of both signs are the same. -/
theorem beq_iff : (a == b) = true ↔ key a ≠ ⊥ ∧ key a = key b :=
  unpacked_beq_iff a.toModel.unpack b.toModel.unpack

theorem number_of_lt (less : a < b) : key b ≠ ⊥ :=
  ne_bot_of_gt (lt_iff.mp less).2

theorem lt_trans (first : a < b) (second : b < c) : a < c := by
  rw [lt_iff] at first second ⊢
  exact ⟨first.1, first.2.trans second.2⟩

theorem lt_of_le_of_lt (first : a ≤ b) (second : b < c) : a < c := by
  rw [le_iff] at first
  rw [lt_iff] at second ⊢
  exact ⟨first.1, first.2.trans_lt second.2⟩

theorem lt_of_lt_of_le (first : a < b) (second : b ≤ c) : a < c := by
  rw [lt_iff] at first ⊢
  rw [le_iff] at second
  exact ⟨first.1, first.2.trans_le second.2⟩

theorem le_of_le_of_lt (first : a ≤ b) (second : b < c) : a ≤ c := by
  rw [le_iff] at first ⊢
  rw [lt_iff] at second
  exact ⟨first.1, first.2.trans second.2.le⟩

theorem le_trans (first : a ≤ b) (second : b ≤ c) : a ≤ c := by
  rw [le_iff] at first second ⊢
  exact ⟨first.1, first.2.trans second.2⟩

theorem le_of_lt (less : a < b) : a ≤ b := by
  rw [lt_iff] at less
  exact le_iff.mpr ⟨less.1, less.2.le⟩

theorem zero_le_zero : zero ≤ zero := by
  decide

theorem isNaN_iff : a.isNaN = true ↔ key a = ⊥ := by
  unfold key Float32.isNaN Float32.Model.isNaN
  rcases a.toModel.unpack with (_ | _) | _ | _ | ⟨_ | _, significand, exponent, _⟩ <;>
    simp [UnpackedFloat.isNaN, unpackedKey, keyOf_ne_bot]

theorem number_iff : a.isNaN = false ↔ key a ≠ ⊥ := by
  rw [← Bool.not_eq_true, isNaN_iff]

/-- A number is below a bound or reaches it. -/
theorem le_of_not_lt (number : a.isNaN = false) (bounded : key b ≠ ⊥) (reached : ¬ a < b) :
    b ≤ a := by
  have valued : key a ≠ ⊥ := by
    intro absurd
    rw [isNaN_iff.mpr absurd] at number
    cases number
  rw [lt_iff, and_iff_right valued, not_lt] at reached
  exact le_iff.mpr ⟨bounded, reached⟩

/-- What is not negative is a number, so the keys alone decide. -/
theorem lt_iff_key (nonnegative : zero ≤ a) : a < b ↔ key a < key b := by
  rw [le_iff] at nonnegative
  have number : key a ≠ ⊥ := ne_bot_of_le_ne_bot nonnegative.1 nonnegative.2
  rw [lt_iff, and_iff_right number]

theorem not_lt_iff_key (nonnegative : zero ≤ a) : ¬ a < b ↔ key b ≤ key a := by
  rw [lt_iff_key nonnegative, not_lt]

/-- The second number where it exceeds the first. -/
def larger (a b : Float32) : Float32 :=
  if b > a then b else a

theorem larger_nonnegative (nonnegative : zero ≤ a) : zero ≤ larger a b := by
  unfold larger
  split
  · rename_i exceeds
    exact le_of_le_of_lt nonnegative exceeds
  · exact nonnegative

theorem larger_zero (nonnegative : zero ≤ a) : larger a zero = a := by
  have atMost : ¬ a < zero := (not_lt_iff_key nonnegative).mpr (le_iff.mp nonnegative).2
  exact if_neg atMost

theorem larger_assoc (nonnegative : zero ≤ a) (nonnegativeToo : zero ≤ b) :
    larger (larger a b) c = larger a (larger b c) := by
  by_cases second : a < b
  · have exceeds : a < larger b c := by
      unfold larger
      split
      · rename_i third
        exact lt_trans second third
      · exact second
    rw [larger, larger, if_pos second, larger, if_pos exceeds, larger]
  · have first : larger a b = a := if_neg second
    rw [first]
    by_cases third : b < c
    · have later : larger b c = c := if_pos third
      rw [later]
    · have earlier : larger b c = b := if_neg third
      rw [not_lt_iff_key nonnegative] at second
      rw [not_lt_iff_key nonnegativeToo] at third
      have last : larger a c = a := if_neg ((not_lt_iff_key nonnegative).mpr (third.trans second))
      rw [earlier, first, last]

/-- The numbers among values. -/
def numbersOf (found : List Float32) : Set Float32 :=
  {value | value ∈ found ∧ value.isNaN = false}

theorem numbersOf_cons (value : Float32) (rest : List Float32) :
    numbersOf (value :: rest) = numbersOf [value] ∪ numbersOf rest := by
  ext other
  simp [numbersOf, or_and_right]

/-- What is no number never becomes the larger one. -/
theorem greatest_larger {values : Set Float32} (greatest : IsGreatest values a) (b : Float32) :
    IsGreatest (values ∪ numbersOf [b]) (larger a b) := by
  obtain ⟨member, upper⟩ := greatest
  have number : a.isNaN = false := number_iff.mpr (le_iff.mp (upper member)).1
  by_cases exceeds : a < b
  · have numberToo : b.isNaN = false := number_iff.mpr (number_of_lt exceeds)
    have last : larger a b = b := if_pos exceeds
    rw [last]
    refine ⟨.inr ⟨List.mem_singleton_self b, numberToo⟩, ?_⟩
    rintro other (former | ⟨added, -⟩)
    · exact le_of_le_of_lt (upper former) exceeds
    · rw [List.mem_singleton.mp added]
      exact le_iff.mpr ⟨number_iff.mp numberToo, le_rfl⟩
  · have last : larger a b = a := if_neg exceeds
    rw [last]
    refine ⟨.inl member, ?_⟩
    rintro other (former | ⟨added, known⟩)
    · exact upper former
    · rw [List.mem_singleton.mp added] at known ⊢
      exact le_of_not_lt number (number_iff.mp known) exceeds

theorem greatest_foldl_larger {values : Set Float32} (greatest : IsGreatest values a)
    (found : List Float32) : IsGreatest (values ∪ numbersOf found) (found.foldl larger a) := by
  induction found generalizing values a with
  | nil => simpa [numbersOf] using greatest
  | cons value rest ih =>
      rw [List.foldl_cons, numbersOf_cons, ← Set.union_assoc]
      exact ih (greatest_larger greatest value)

/-! A positive number is its key: no two patterns of bits have the same one. -/

theorem eq_of_unpack_eq (same : a.toModel.unpack = b.toModel.unpack) : a = b := by
  obtain ⟨⟨bits, valid⟩⟩ := a
  obtain ⟨⟨bits', valid'⟩⟩ := b
  have equal : bits = bits' :=
    UInt32.toBitVec_inj.mp ((unpack_inj_of_valid valid valid').mp same)
  subst equal
  rfl

theorem unpackedKey_inj {a b : UnpackedFloat} (positive : keyOf 0 0 0 < unpackedKey a)
    (same : unpackedKey a = unpackedKey b) : a = b := by
  rcases a with (_ | _) | _ | _ | ⟨_ | _, significand, exponent, _⟩ <;>
    rcases b with (_ | _) | _ | _ | ⟨_ | _, significand', exponent', _⟩ <;>
    simp_all [unpackedKey, keyOf_inj, keyOf_lt, keyOf_ne_bot]

theorem eq_of_key_eq (positive : zero < a) (same : key a = key b) : a = b :=
  eq_of_unpack_eq (unpackedKey_inj (lt_iff.mp positive).2 same)

end TextVectors.Binary32
