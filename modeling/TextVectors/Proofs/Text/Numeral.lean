import TextVectors.Text.Numeral

namespace TextVectors.Text

/-! The texts that are read as a number.

A numeral is the decimal form of its value with any number of zeros in front.  Only such texts are
read, each of them as that value.
-/

variable {digits text : List Char} {value n : Nat} {c : Char} {number : Int}

theorem isDigit_iff : c.isDigit = true ↔ ∃ digit < 10, c = Nat.digitChar digit := by
  constructor
  · intro digit
    have range : 48 ≤ c.toNat ∧ c.toNat ≤ 57 := by
      rw [Char.isDigit, Bool.and_eq_true, decide_eq_true_iff, decide_eq_true_iff] at digit
      exact ⟨UInt32.le_iff_toNat_le.mp digit.1, UInt32.le_iff_toNat_le.mp digit.2⟩
    refine ⟨c.toNat - 48, by omega, Char.toNat_inj.mp ?_⟩
    rw [Nat.toNat_digitChar_of_lt_ten (by omega)]
    omega
  · rintro ⟨digit, small, rfl⟩
    revert digit
    decide

theorem digitValue?_eq_some_iff : digitValue? c = some n ↔ n < 10 ∧ c = Nat.digitChar n := by
  have known : ∀ digit < 10, digitValue? (Nat.digitChar digit) = some digit := by decide
  constructor
  · intro found
    have digit : c.isDigit = true := by
      by_cases digit : '0' ≤ c ∧ c ≤ '9'
      · rw [Char.isDigit, Bool.and_eq_true, decide_eq_true_iff, decide_eq_true_iff]
        exact digit
      · rw [digitValue?, if_neg digit] at found
        cases found
    obtain ⟨m, small, rfl⟩ := isDigit_iff.mp digit
    rw [known m small] at found
    cases found
    exact ⟨small, rfl⟩
  · rintro ⟨small, rfl⟩
    exact known n small

theorem continueNumeral?_eq_some_iff :
    continueNumeral? value digits = some n ↔
      (∀ c ∈ digits, c.isDigit = true) ∧ n = Nat.ofDigitChars 10 digits value := by
  induction digits generalizing value with
  | nil => simp only [continueNumeral?, Option.some.injEq, List.not_mem_nil, false_implies,
      implies_true, true_and, Nat.ofDigitChars_nil, eq_comm]
  | cons c rest ih =>
      rw [continueNumeral?, Option.bind_eq_bind, Option.bind_eq_some_iff, List.forall_mem_cons]
      constructor
      · rintro ⟨digit, found, last⟩
        obtain ⟨small, rfl⟩ := digitValue?_eq_some_iff.mp found
        obtain ⟨others, same⟩ := ih.mp last
        rw [Nat.ofDigitChars_cons_digitChar_of_lt_ten small, Nat.mul_comm]
        exact ⟨⟨isDigit_iff.mpr ⟨digit, small, rfl⟩, others⟩, same⟩
      · rintro ⟨⟨first, others⟩, same⟩
        obtain ⟨digit, small, rfl⟩ := isDigit_iff.mp first
        rw [Nat.ofDigitChars_cons_digitChar_of_lt_ten small, Nat.mul_comm] at same
        exact ⟨digit, digitValue?_eq_some_iff.mpr ⟨small, rfl⟩, ih.mpr ⟨others, same⟩⟩

/-- Digits behind those of a positive number go on with its decimal form. -/
theorem toDigits_ofDigitChars (positive : 0 < value) (each : ∀ c ∈ digits, c.isDigit = true) :
    Nat.toDigits 10 value ++ digits = Nat.toDigits 10 (Nat.ofDigitChars 10 digits value) := by
  induction digits generalizing value with
  | nil => simp [Nat.ofDigitChars_eq_foldl]
  | cons c rest ih =>
      obtain ⟨first, others⟩ := List.forall_mem_cons.mp each
      obtain ⟨digit, small, rfl⟩ := isDigit_iff.mp first
      calc Nat.toDigits 10 value ++ digit.digitChar :: rest
        _ = Nat.toDigits 10 value ++ Nat.toDigits 10 digit ++ rest := by
            rw [Nat.toDigits_of_lt_base small]
            simp
        _ = Nat.toDigits 10 (10 * value + digit) ++ rest := by
            rw [Nat.toDigits_append_toDigits (by decide) positive small]
        _ = Nat.toDigits 10 (Nat.ofDigitChars 10 rest (10 * value + digit)) :=
            ih (by omega) others
        _ = _ := by rw [Nat.ofDigitChars_cons_digitChar_of_lt_ten small]

/-- The decimal form of a number, with some zeros in front. -/
def DecimalForm (n : Nat) (digits : List Char) : Prop :=
  ∃ zeros, digits = List.replicate zeros '0' ++ Nat.toDigits 10 n

theorem DecimalForm.digit (form : DecimalForm n digits) : ∀ c ∈ digits, c.isDigit = true := by
  obtain ⟨zeros, rfl⟩ := form
  intro c member
  rcases List.mem_append.mp member with zero | digit
  · rw [List.eq_of_mem_replicate zero]
    decide
  · exact Nat.isDigit_of_mem_toDigits (by decide) (by decide) digit

theorem DecimalForm.ne_nil (form : DecimalForm n digits) : digits ≠ [] := by
  obtain ⟨zeros, rfl⟩ := form
  simp [Nat.toDigits_ne_nil]

/-- Digits are the decimal form of their value. -/
theorem decimalForm_of_digits (some : digits ≠ []) (each : ∀ c ∈ digits, c.isDigit = true) :
    DecimalForm (Nat.ofDigitChars 10 digits 0) digits := by
  induction digits with
  | nil => exact (some rfl).elim
  | cons c rest ih =>
      obtain ⟨first, others⟩ := List.forall_mem_cons.mp each
      obtain ⟨digit, small, rfl⟩ := isDigit_iff.mp first
      rw [Nat.ofDigitChars_cons_digitChar_of_lt_ten small, Nat.mul_zero, Nat.zero_add]
      by_cases zero : digit = 0
      · subst zero
        cases rest with
        | nil => exact ⟨0, rfl⟩
        | cons next rest =>
            obtain ⟨zeros, same⟩ := ih (by simp) others
            exact ⟨zeros + 1, congrArg ('0' :: ·) same⟩
      · refine ⟨0, ?_⟩
        rw [← toDigits_ofDigitChars (Nat.pos_of_ne_zero zero) others,
          Nat.toDigits_of_lt_base small]
        rfl

theorem numeral?_eq_some_iff : numeral? digits = some n ↔ DecimalForm n digits := by
  cases digits with
  | nil => exact ⟨nofun, fun form => (form.ne_nil rfl).elim⟩
  | cons c rest =>
      rw [show numeral? (c :: rest) = continueNumeral? 0 (c :: rest) from rfl,
        continueNumeral?_eq_some_iff]
      constructor
      · rintro ⟨each, rfl⟩
        exact decimalForm_of_digits (List.cons_ne_nil c rest) each
      · intro form
        refine ⟨form.digit, ?_⟩
        obtain ⟨zeros, same⟩ := form
        rw [same, Nat.ofDigitChars_append, Nat.ofDigitChars_replicate_zero, Nat.mul_zero,
          Nat.ofDigitChars_ten_toDigits]

/-- A number with a sign, which may be left out where the number is not negative. -/
inductive Signed : Int → List Char → Prop
  | plain {n : Nat} {digits : List Char} : DecimalForm n digits → Signed n digits
  | plus {n : Nat} {digits : List Char} : DecimalForm n digits → Signed n ('+' :: digits)
  | minus {n : Nat} {digits : List Char} : DecimalForm n digits → Signed (-n) ('-' :: digits)

theorem signedNumeral?_eq_some_iff : signedNumeral? text = some number ↔ Signed number text := by
  constructor
  · intro found
    unfold signedNumeral? at found
    split at found
    · obtain ⟨value, cast, rfl⟩ := Option.map_eq_some_iff.mp found
      obtain ⟨n, read, same⟩ := Option.bind_eq_some_iff.mp cast
      cases same
      exact .minus (numeral?_eq_some_iff.mp read)
    · obtain ⟨n, read, rfl⟩ := Option.map_eq_some_iff.mp found
      exact .plus (numeral?_eq_some_iff.mp read)
    · obtain ⟨n, read, rfl⟩ := Option.map_eq_some_iff.mp found
      exact .plain (numeral?_eq_some_iff.mp read)
  · intro signed
    cases signed with
    | plus form => rw [signedNumeral?, numeral?_eq_some_iff.mpr form]; rfl
    | minus form => rw [signedNumeral?, numeral?_eq_some_iff.mpr form]; rfl
    | plain form =>
        -- What begins with a digit does not begin with a sign.
        unfold signedNumeral?
        split
        · exact absurd (form.digit '-' List.mem_cons_self) (by decide)
        · exact absurd (form.digit '+' List.mem_cons_self) (by decide)
        · rw [numeral?_eq_some_iff.mpr form]
          rfl

end TextVectors.Text
