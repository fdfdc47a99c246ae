import Mathlib.Tactic.IntervalCases
import Mathlib.Tactic.SplitIfs
import TextVectors.Proofs.Json.Numbers

namespace TextVectors.Json

/-! What is written reads back.

The reader goes on as long as the grammar allows, so every part is read with what follows it in
the text.  Its bound on the depth suffices for every text that was written: each level of nesting
takes two steps, and at least one character.
-/

section Texts

theorem hexValue?_hexChar : ∀ value < 16, hexValue? (hexChar value) = some value := by
  decide

/-- Characters are escaped by a letter, by their number, or not at all. -/
theorem escape_cases (c : Char) :
    (∃ letter, letterEscape? letter = some c ∧ escape c = ['\\', letter]) ∨
    (c.toNat < 0x20 ∧
      escape c = ['\\', 'u', '0', '0', hexChar (c.toNat / 16), hexChar (c.toNat % 16)]) ∨
    (c ≠ '"' ∧ c ≠ '\\' ∧ ¬ c.toNat < 0x20 ∧ escape c = [c]) := by
  unfold escape
  split_ifs with quote backslash line return_ tab back form control
  · exact .inl ⟨'"', by rw [quote]; rfl, rfl⟩
  · exact .inl ⟨'\\', by rw [backslash]; rfl, rfl⟩
  · exact .inl ⟨'n', by rw [line]; rfl, rfl⟩
  · exact .inl ⟨'r', by rw [return_]; rfl, rfl⟩
  · exact .inl ⟨'t', by rw [tab]; rfl, rfl⟩
  · exact .inl ⟨'b', by rw [back]; rfl, rfl⟩
  · exact .inl ⟨'f', by rw [form]; rfl, rfl⟩
  · exact .inr (.inl ⟨control, rfl⟩)
  · exact .inr (.inr ⟨quote, backslash, control, rfl⟩)

theorem pieceOfUnit_control {c : Char} (control : c.toNat < 0x20) :
    pieceOfUnit (c.toNat / 16 * 16 + c.toNat % 16) = .char c := by
  have same : c.toNat / 16 * 16 + c.toNat % 16 = c.toNat := by omega
  rw [same, pieceOfUnit, if_neg (by omega), Char.ofNat_toNat]

/-- A character reads back as the one piece that it is, however it is escaped. -/
theorem readPieces_escape (c : Char) (more : List Char) :
    readPieces (escape c ++ more) =
      (readPieces more).map fun read => (.char c :: read.1, read.2) := by
  rcases escape_cases c with ⟨letter, named, written⟩ | ⟨control, written⟩ |
    ⟨quote, backslash, control, written⟩
  · have number : letter ≠ 'u' := by rintro rfl; cases named
    rw [written]
    cases read : readPieces more <;> simp [readPieces, number, named, read]
  · have high := hexValue?_hexChar (c.toNat / 16) (by omega)
    have low := hexValue?_hexChar (c.toNat % 16) (by omega)
    have zero : hexValue? '0' = some 0 := rfl
    have unit := pieceOfUnit_control control
    rw [written]
    cases read : readPieces more <;> simp [readPieces, high, low, zero, unit, read]
  · rw [written]
    cases read : readPieces more <;> simp [readPieces, backslash, control, read]

theorem readPieces_written (text rest : List Char) :
    readPieces (text.flatMap escape ++ '"' :: rest) = some (text.map Piece.char, rest) := by
  induction text with
  | nil => simp [readPieces]
  | cons c text ih =>
      rw [List.flatMap_cons, List.append_assoc, readPieces_escape, ih]
      rfl

theorem joinPieces_chars (text : List Char) : joinPieces (text.map Piece.char) = some text := by
  induction text with
  | nil => rfl
  | cons c text ih => simp [joinPieces, ih]

/-- A literal reads back, also where it denotes no text. -/
theorem readString_write (text : JsonText) :
    ∃ body, writeText text = '"' :: body ∧
      ∀ rest, readString (body ++ rest) = some (text, rest) := by
  cases text with
  | none => exact ⟨_, rfl, fun rest => rfl⟩
  | some text =>
      refine ⟨text.toList.flatMap escape ++ ['"'], rfl, fun rest => ?_⟩
      have read := readPieces_written text.toList rest
      simp [readString, read, joinPieces_chars]

end Texts

/-- A tree whose numbers are numbers of the grammar. -/
inductive Proper : Json → Prop
  | null : Proper .null
  | bool (value) : Proper (.bool value)
  | number {value} : value.Proper → Proper (.number value)
  | string (text) : Proper (.string text)
  | array {elements} : (∀ element ∈ elements, Proper element) → Proper (.array elements)
  | object {members} : (∀ member ∈ members, Proper member.2) → Proper (.object members)

theorem record_proper {members : List (String × Json)}
    (proper : ∀ member ∈ members, member.2.Proper) : (record members).Proper := by
  refine .object fun member listed => ?_
  obtain ⟨entry, inside, rfl⟩ := List.mem_map.mp listed
  exact proper entry inside

/-- A tree reads back in front of whatever may follow it. -/
def Reads (value : Json) : Prop :=
  ∀ fuel rest, 2 * (write value).length ≤ fuel → Follows rest →
    readValue fuel (write value ++ rest) = some (value, rest)

section Values

variable {elements : List Json} {members : List (JsonText × Json)} {value : Json}
variable {fuel : Nat} {rest : List Char}

theorem writeNumber_start {number : JsonNumber} (proper : number.Proper) :
    ∃ c more, writeNumber number = c :: more ∧ (c = '-' ∨ ∃ digit, c = digitChar digit) := by
  rw [writeNumber_eq]
  cases number.negative with
  | true => exact ⟨'-', _, rfl, .inl rfl⟩
  | false =>
      obtain ⟨digit, others, whole⟩ := List.exists_cons_of_ne_nil proper.whole
      rw [whole]
      exact ⟨digitChar digit, _, rfl, .inr ⟨digit, rfl⟩⟩

/-- A value begins with something that is no blank and closes nothing. -/
theorem write_start (proper : value.Proper) :
    ∃ c more, write value = c :: more ∧ isBlank c = false ∧ c ≠ ']' := by
  cases proper with
  | null => exact ⟨'n', _, rfl, rfl, by decide⟩
  | bool value => cases value <;> exact ⟨_, _, rfl, rfl, by decide⟩
  | number proper =>
      have plain : ∀ digit, isBlank (digitChar digit) = false ∧ digitChar digit ≠ ']' := by decide
      obtain ⟨c, more, written, rfl | ⟨digit, rfl⟩⟩ := writeNumber_start proper
      · exact ⟨'-', more, written, rfl, by decide⟩
      · exact ⟨digitChar digit, more, written, plain digit⟩
  | string text =>
      obtain ⟨body, written, -⟩ := readString_write text
      exact ⟨'"', body, written, rfl, by decide⟩
  | array _ => exact ⟨'[', _, rfl, rfl, by decide⟩
  | object _ => exact ⟨'\x7b', _, rfl, rfl, by decide⟩

theorem skipBlanks_cons {c : Char} (plain : isBlank c = false) (more : List Char) :
    skipBlanks (c :: more) = c :: more := by
  simp [skipBlanks, plain]

theorem readElements_write (reads : ∀ element ∈ elements, Reads element)
    (nonempty : elements ≠ []) (enough : 2 * (writeElements elements).length + 1 ≤ fuel)
    (rest : List Char) :
    readElements fuel (writeElements elements ++ ']' :: rest) = some (elements, rest) := by
  induction elements generalizing fuel with
  | nil => exact absurd rfl nonempty
  | cons element others ih =>
      cases fuel with
      | zero => cases enough
      | succ fuel =>
          have first := reads element List.mem_cons_self
          cases others with
          | nil =>
              rw [writeElements] at enough ⊢
              have read := first fuel (']' :: rest) (by omega) (by simp [Follows])
              simp [readElements, read, skipBlanks_cons, isBlank]
          | cons next others =>
              rw [writeElements] at enough ⊢
              simp only [List.length_append, List.length_cons] at enough
              have read := first fuel (',' :: (writeElements (next :: others) ++ ']' :: rest))
                (by omega) (by simp [Follows])
              have more := ih (fun other member => reads other (List.mem_cons_of_mem _ member))
                (by simp) (show 2 * (writeElements (next :: others)).length + 1 ≤ fuel by omega)
              simp [readElements, read, more, skipBlanks_cons, isBlank]

/-- One member, with what closes the object or goes on with it behind. -/
theorem readMembers_write (reads : ∀ member ∈ members, Reads member.2)
    (nonempty : members ≠ []) (enough : 2 * (writeMembers members).length + 1 ≤ fuel)
    (rest : List Char) :
    readMembers fuel (writeMembers members ++ '\x7d' :: rest) = some (members, rest) := by
  induction members generalizing fuel with
  | nil => exact absurd rfl nonempty
  | cons member others ih =>
      obtain ⟨name, value⟩ := member
      obtain ⟨body, written, readName⟩ := readString_write name
      cases fuel with
      | zero => cases enough
      | succ fuel =>
          have first : Reads value := reads (name, value) List.mem_cons_self
          cases others with
          | nil =>
              rw [writeMembers, written] at enough ⊢
              simp only [List.length_append, List.length_cons] at enough
              have read := first fuel ('\x7d' :: rest) (by omega) (by simp [Follows])
              simp [readMembers, readName, read, skipBlanks_cons, isBlank]
          | cons next others =>
              rw [writeMembers, written] at enough ⊢
              simp only [List.length_append, List.length_cons] at enough
              have read := first fuel (',' :: (writeMembers (next :: others) ++ '\x7d' :: rest))
                (by omega) (by simp [Follows])
              have more := ih (fun other member => reads other (List.mem_cons_of_mem _ member))
                (by simp) (show 2 * (writeMembers (next :: others)).length + 1 ≤ fuel by omega)
              simp [readMembers, readName, read, more, skipBlanks_cons, isBlank]

/-- What begins like a number is read as one. -/
theorem readValue_number {c : Char} (numeric : c = '-' ∨ ∃ digit, c = digitChar digit)
    (fuel : Nat) (more : List Char) :
    readValue (fuel + 1) (c :: more) =
      (readNumber (c :: more)).map fun read => (.number read.1, read.2) := by
  rcases numeric with rfl | ⟨⟨digit, small⟩, rfl⟩
  · rfl
  · interval_cases digit <;> rfl

theorem writeElements_start (proper : ∀ element ∈ elements, element.Proper)
    (nonempty : elements ≠ []) :
    ∃ c more, writeElements elements = c :: more ∧ isBlank c = false ∧ c ≠ ']' := by
  obtain ⟨element, others, rfl⟩ := List.exists_cons_of_ne_nil nonempty
  obtain ⟨c, more, written, start⟩ := write_start (proper element List.mem_cons_self)
  cases others with
  | nil => exact ⟨c, more, written, start⟩
  | cons next others => exact ⟨c, _, by rw [writeElements, written, List.cons_append], start⟩

theorem writeMembers_start (nonempty : members ≠ []) :
    ∃ more, writeMembers members = '"' :: more := by
  obtain ⟨⟨name, value⟩, others, rfl⟩ := List.exists_cons_of_ne_nil nonempty
  obtain ⟨body, written, -⟩ := readString_write name
  cases others with
  | nil => exact ⟨_, by rw [writeMembers, written, List.cons_append]⟩
  | cons next others => exact ⟨_, by rw [writeMembers, written]; rfl⟩

/-- There is fuel for the value itself. -/
theorem reads_of_succ (proper : value.Proper)
    (read : ∀ fuel rest, 2 * (write value).length ≤ fuel + 1 → Follows rest →
      readValue (fuel + 1) (write value ++ rest) = some (value, rest)) : Reads value := by
  intro fuel rest enough follows
  obtain ⟨c, more, written, -⟩ := write_start proper
  cases fuel with
  | zero => simp [written] at enough
  | succ fuel => exact read fuel rest enough follows

/-- Every proper tree reads back, in front of whatever may follow it. -/
theorem Proper.reads (proper : value.Proper) : Reads value := by
  induction proper with
  | null =>
      refine reads_of_succ .null fun fuel rest _ _ => ?_
      simp [write, readValue, skipBlanks, isBlank, Text.after?]
  | bool value =>
      refine reads_of_succ (.bool value) fun fuel rest _ _ => ?_
      cases value <;> simp [write, readValue, skipBlanks, isBlank, Text.after?]
  | number proper =>
      refine reads_of_succ (.number proper) fun fuel rest _ follows => ?_
      obtain ⟨c, more, written, numeric⟩ := writeNumber_start proper
      have read := readNumber_write proper follows
      rw [write, written] at *
      rw [List.cons_append] at read ⊢
      rw [readValue_number numeric, read]
      rfl
  | string text =>
      refine reads_of_succ (.string text) fun fuel rest _ _ => ?_
      obtain ⟨body, written, read⟩ := readString_write text
      simp [write, written, readValue, skipBlanks_cons, isBlank, read]
  | @array elements proper ih =>
      refine reads_of_succ (.array proper) fun fuel rest enough _ => ?_
      cases elements with
      | nil => simp [write, writeElements, readValue, skipBlanks_cons, isBlank]
      | cons element others =>
          obtain ⟨c, more, written, blank, opens⟩ := writeElements_start proper (by simp)
          have length : (write (.array (element :: others))).length =
              (writeElements (element :: others)).length + 2 := by
            simp [write]
          have read := readElements_write ih (by simp)
            (show 2 * (writeElements (element :: others)).length + 1 ≤ fuel by omega) rest
          rw [written] at read
          simp only [List.cons_append] at read
          have opened := skipBlanks_cons blank (more ++ ']' :: rest)
          simp [write, written, readValue, skipBlanks_cons, isBlank, opened, opens, read]
  | @object members proper ih =>
      refine reads_of_succ (.object proper) fun fuel rest enough _ => ?_
      cases members with
      | nil => simp [write, writeMembers, readValue, skipBlanks_cons, isBlank]
      | cons member others =>
          obtain ⟨more, written⟩ := writeMembers_start (List.cons_ne_nil member others)
          have length : (write (.object (member :: others))).length =
              (writeMembers (member :: others)).length + 2 := by
            simp [write]
          have read := readMembers_write ih (by simp)
            (show 2 * (writeMembers (member :: others)).length + 1 ≤ fuel by omega) rest
          rw [written] at read
          simp only [List.cons_append] at read
          simp [write, written, readValue, skipBlanks_cons, isBlank, read]

/-- Reading a text that was written gives the tree again. -/
theorem read?_compact (proper : value.Proper) : read? (compact value) = some value := by
  have read := proper.reads (2 * (write value).length + 1) [] (Nat.le_succ _) (by simp [Follows])
  rw [List.append_nil] at read
  rw [read?, compact, String.toList_ofList, readChars?, read]
  rfl

end Values

end TextVectors.Json
