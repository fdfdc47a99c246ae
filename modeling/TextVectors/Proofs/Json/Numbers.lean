import TextVectors.Json.Reader
import TextVectors.Json.Scalar
import TextVectors.Json.Writer
import TextVectors.Proofs.Decimal

namespace TextVectors

/-! Numbers in a JSON text.

Reading a number takes the longest run of digits at every place where digits may stand.  So what
was written is read again as far as the characters behind it allow: none of them may go on with
the number.
-/

/-- What the grammar asks of the digits of a number. -/
structure JsonNumber.Proper (number : JsonNumber) : Prop where
  whole : number.whole ≠ []
  leading : number.whole.head? = some Json.zeroDigit → number.whole.length = 1
  exponent : ∀ written ∈ number.exponent, written.2 ≠ []

namespace Json

section Digits

theorem digit?_digitChar (digit : Digit) : digit? (digitChar digit) = some digit := by
  revert digit
  decide

theorem digitsOf_of_lt {n : Nat} (small : n < 10) : digitsOf n = [Fin.ofNat 10 n] := by
  rw [digitsOf, Nat.toDigits_of_lt_base small]
  have each : ∀ n < 10, digitOfChar n.digitChar = Fin.ofNat 10 n := by decide
  simp [each n small]

theorem digitsOf_of_le {n : Nat} (large : 10 ≤ n) :
    digitsOf n = digitsOf (n / 10) ++ [Fin.ofNat 10 (n % 10)] := by
  rw [digitsOf, Nat.toDigits_of_base_le (by decide) large, List.map_append, ← digitsOf]
  have last := digitsOf_of_lt (Nat.mod_lt n (by decide : 0 < 10))
  rw [digitsOf, Nat.toDigits_of_lt_base (Nat.mod_lt n (by decide))] at last
  rw [last]

theorem digitsOf_ne_nil (n : Nat) : digitsOf n ≠ [] := by
  simp [digitsOf, Nat.toDigits_ne_nil]

theorem valueOf_append (digits : List Digit) (last : Digit) :
    JsonNumber.valueOf (digits ++ [last]) = JsonNumber.valueOf digits * 10 + last.val := by
  simp [JsonNumber.valueOf]

theorem valueOf_digitsOf (n : Nat) : JsonNumber.valueOf (digitsOf n) = n := by
  induction n using Nat.strongRecOn with
  | ind n ih =>
      by_cases small : n < 10
      · rw [digitsOf_of_lt small]
        simp [JsonNumber.valueOf, Nat.mod_eq_of_lt small]
      · have large : 10 ≤ n := Nat.not_lt.mp small
        rw [digitsOf_of_le large, valueOf_append, ih (n / 10) (by omega)]
        simp only [Fin.val_ofNat]
        omega

/-- Only zero is written with a zero in front. -/
theorem zero_of_leading {n : Nat} (leading : (digitsOf n).head? = some zeroDigit) : n = 0 := by
  induction n using Nat.strongRecOn with
  | ind n ih =>
      by_cases small : n < 10
      · rw [digitsOf_of_lt small] at leading
        have each : ∀ n < 10, some (Fin.ofNat 10 n) = some zeroDigit → n = 0 := by decide
        exact each n small leading
      · have large : 10 ≤ n := Nat.not_lt.mp small
        obtain ⟨digit, others, written⟩ := List.exists_cons_of_ne_nil (digitsOf_ne_nil (n / 10))
        rw [digitsOf_of_le large, written] at leading
        have zero := ih (n / 10) (by omega) (by rw [written]; exact leading)
        omega

theorem digitsOf_leading {n : Nat} (leading : (digitsOf n).head? = some zeroDigit) :
    (digitsOf n).length = 1 := by
  rw [zero_of_leading leading]
  rfl

theorem natural_proper (n : Nat) : JsonNumber.Proper ⟨false, digitsOf n, [], none⟩ where
  whole := digitsOf_ne_nil n
  leading := digitsOf_leading
  exponent := by simp

/-- A natural number within a limit reads back. -/
theorem natural?_natural {n limit : Nat} (small : n < limit) :
    (natural n).natural? limit = some n := by
  simp [natural?, natural, JsonNumber.integer?, valueOf_digitsOf, small]

end Digits

section Reading

/-- No digit comes next. -/
def NoDigit (rest : List Char) : Prop :=
  ∀ c ∈ rest.head?, digit? c = none

variable {rest : List Char} {digits : List Digit}

theorem digitRun_written (digits : List Digit) (stops : NoDigit rest) :
    digitRun (digits.map digitChar ++ rest) = (digits, rest) := by
  induction digits with
  | nil =>
      cases rest with
      | nil => rfl
      | cons c rest => simp [digitRun, stops c rfl]
  | cons digit digits ih => simp [digitRun, digit?_digitChar, ih]

theorem readWhole_written (nonempty : digits ≠ [])
    (leading : digits.head? = some zeroDigit → digits.length = 1) (stops : NoDigit rest) :
    readWhole (digits.map digitChar ++ rest) = some (digits, rest) := by
  have run := digitRun_written digits stops
  obtain ⟨digit, others, rfl⟩ := List.exists_cons_of_ne_nil nonempty
  simp only [readWhole, run]
  rw [if_neg]
  intro padded
  have single := leading padded.1
  omega

/-- The part behind the point, if there are digits for it. -/
def writeFraction : List Digit → List Char
  | [] => []
  | digits => '.' :: digits.map digitChar

theorem readFraction_written (stops : NoDigit rest) (noPoint : rest.head? ≠ some '.') :
    readFraction (writeFraction digits ++ rest) = some (digits, rest) := by
  cases digits with
  | nil =>
      cases rest with
      | nil => rfl
      | cons c rest =>
          simp only [writeFraction, List.nil_append]
          unfold readFraction
          split
          · rename_i same
            simp at same noPoint
            exact absurd same.1 noPoint
          · rfl
  | cons digit others =>
      have run := digitRun_written (digit :: others) stops
      simp only [writeFraction, List.cons_append, readFraction, run]

def writeExponent : Option (Bool × List Digit) → List Char
  | none => []
  | some (negative, digits) => 'e' :: (if negative then '-' else '+') :: digits.map digitChar

theorem readExponentDigits_written (negative : Bool) (nonempty : digits ≠ [])
    (stops : NoDigit rest) :
    readExponentDigits negative (digits.map digitChar ++ rest) =
      some (some (negative, digits), rest) := by
  have run := digitRun_written digits stops
  obtain ⟨digit, others, rfl⟩ := List.exists_cons_of_ne_nil nonempty
  simp only [readExponentDigits, run]

theorem readExponent_written {exponent : Option (Bool × List Digit)}
    (nonempty : ∀ written ∈ exponent, written.2 ≠ []) (stops : NoDigit rest)
    (noExponent : ∀ c ∈ rest.head?, c ≠ 'e' ∧ c ≠ 'E') :
    readExponent (writeExponent exponent ++ rest) = some (exponent, rest) := by
  cases exponent with
  | none =>
      cases rest with
      | nil => rfl
      | cons c rest => simp [writeExponent, readExponent, noExponent c rfl]
  | some written =>
      obtain ⟨negative, digits⟩ := written
      have read := readExponentDigits_written negative (nonempty _ rfl) stops
      cases negative with
      | true => simpa [writeExponent, readExponent] using read
      | false => simpa [writeExponent, readExponent] using read

/-- Behind a value there is nothing, or what goes on or ends around it. -/
def Follows (rest : List Char) : Prop :=
  ∀ c ∈ rest.head?, c = ',' ∨ c = ']' ∨ c = '\x7d'

theorem Follows.noDigit (follows : Follows rest) : NoDigit rest := by
  intro c next
  rcases follows c next with rfl | rfl | rfl <;> rfl

theorem Follows.exponent (follows : Follows rest) (exponent : Option (Bool × List Digit)) :
    NoDigit (writeExponent exponent ++ rest) ∧
      (writeExponent exponent ++ rest).head? ≠ some '.' := by
  cases exponent with
  | some written => exact ⟨by rintro c ⟨⟩; rfl, by simp [writeExponent]⟩
  | none =>
      refine ⟨follows.noDigit, fun point => ?_⟩
      rcases follows _ point with absurd | absurd | absurd <;> cases absurd

theorem NoDigit.fraction (stops : NoDigit rest) (digits : List Digit) :
    NoDigit (writeFraction digits ++ rest) := by
  cases digits with
  | nil => exact stops
  | cons digit digits => rintro c ⟨⟩; rfl

theorem readUnsigned_written {number : JsonNumber} (proper : number.Proper)
    (follows : Follows rest) :
    readUnsigned number.negative (number.whole.map digitChar ++
      (writeFraction number.fraction ++ (writeExponent number.exponent ++ rest))) =
        some (number, rest) := by
  obtain ⟨stops, noPoint⟩ := follows.exponent number.exponent
  have noExponent : ∀ c ∈ rest.head?, c ≠ 'e' ∧ c ≠ 'E' := by
    intro c next
    rcases follows c next with rfl | rfl | rfl <;> decide
  simp only [readUnsigned, readWhole_written proper.whole proper.leading (stops.fraction _),
    readFraction_written stops noPoint, bind, Option.bind,
    readExponent_written proper.exponent follows.noDigit noExponent]
  rfl

theorem readNumber_unsigned {c : Char} (unsigned : c ≠ '-') (rest : List Char) :
    readNumber (c :: rest) = readUnsigned false (c :: rest) := by
  unfold readNumber
  split
  · rename_i same
    exact absurd (List.cons.inj same).1 unsigned
  · rfl

theorem writeNumber_eq (number : JsonNumber) :
    writeNumber number = (if number.negative then ['-'] else []) ++ (number.whole.map digitChar ++
      (writeFraction number.fraction ++ writeExponent number.exponent)) := by
  obtain ⟨negative, whole, fraction, exponent⟩ := number
  cases fraction <;> cases exponent <;> simp [writeNumber, writeFraction, writeExponent]

/-- A number reads back whatever may follow a value. -/
theorem readNumber_write {number : JsonNumber} (proper : number.Proper) (follows : Follows rest) :
    readNumber (writeNumber number ++ rest) = some (number, rest) := by
  have read := readUnsigned_written proper follows
  rw [writeNumber_eq]
  simp only [List.append_assoc]
  obtain ⟨negative, whole, fraction, exponent⟩ := number
  cases negative with
  | true => exact read
  | false =>
      obtain ⟨digit, others, rfl⟩ := List.exists_cons_of_ne_nil proper.whole
      have unsigned : ∀ digit, digitChar digit ≠ '-' := by decide
      exact (readNumber_unsigned (unsigned digit) _).trans read

end Reading

end Json

namespace JsonNumber

open Json

theorem ofDigits_proper {n : Nat} {leading : Int} (zero : n = 0 → leading = 0) (negative : Bool) :
    (ofDigits negative (Json.digitsOf n) leading).Proper := by
  have nonempty := digitsOf_ne_nil n
  unfold ofDigits
  split
  · exact ⟨by simp, fun _ => rfl, by simp⟩
  · split
    · rename_i inside
      have places : 0 < leading.toNat + 1 := Nat.succ_pos _
      obtain ⟨digit, others, written⟩ := List.exists_cons_of_ne_nil nonempty
      refine ⟨by simp [written], fun zeroFirst => ?_, by simp⟩
      have first : (Json.digitsOf n).head? = some zeroDigit := by
        simpa [written] using zeroFirst
      have none := zero_of_leading first
      rw [zero none, none]
      rfl
    · obtain ⟨digit, others, written⟩ := List.exists_cons_of_ne_nil nonempty
      refine ⟨by simp [written], fun _ => by simp [written], ?_⟩
      intro exponent given
      cases given
      exact digitsOf_ne_nil _

/-- What is written for a number is a number. -/
theorem ofBinary32_proper (x : Float32) : (ofBinary32 x).Proper := by
  refine ofDigits_proper (fun zero => ?_) _
  rw [Decimal.digitsOf_zero zero]
  rfl

end JsonNumber

end TextVectors
