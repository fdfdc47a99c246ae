import Mathlib.Data.List.Chain
import Mathlib.Data.List.Forall2
import TextVectors.Proofs.Execution
import TextVectors.Proofs.Text.Cut
import TextVectors.Proofs.Text.Numeral
import TextVectors.Shape

namespace TextVectors.Shape

open Text (Blank Joined Signed strip)

/-! Which texts are read as a shape.

A text writes dimensions if, between brackets that may be left out, there are numbers with white
space around each of them and a separator between any two.  Exactly these texts are read, with the
dimensions they write, provided that all are in range; the text of a shape is one of them.
-/

variable {dims others : List Int} {dim : Int} {text body front back piece : List Char}
variable {pieces : List (List Char)} {c : Char}

def separates (c : Char) : Bool :=
  c == ',' || c == 'x'

/-- A text is a body with brackets around it, each kind any number of times, and white space around
them. -/
def Encloses (body text : List Char) : Prop :=
  ∃ front opening closing back, Blank front ∧ (∀ c ∈ opening, c = '[') ∧
    (∀ c ∈ closing, c = ']') ∧ Blank back ∧ text = front ++ opening ++ body ++ closing ++ back

/-- A piece is a decimal number with white space around it. -/
def Written (dim : Int) (piece : List Char) : Prop :=
  ∃ front digits back, Blank front ∧ Blank back ∧ Signed dim digits ∧
    piece = front ++ digits ++ back

/-- Numbers in their order with a separator between any two; none of them, and nothing but white
space. -/
inductive Listing : List Int → List Char → Prop
  | none {body : List Char} : Blank body → Listing [] body
  | some {dims : List Int} {pieces : List (List Char)} {body : List Char} :
      Joined separates pieces body → List.Forall₂ Written dims pieces → Listing dims body

def Writes (dims : List Int) (text : List Char) : Prop :=
  ∃ body, Encloses body text ∧ Listing dims body

/-- The range of the dimensions that a text can give. -/
def InRange (dim : Int) : Prop :=
  0 ≤ dim ∧ dim < signedLimit

/-! ### Numbers and the characters around them -/

def Unbracketed (c : Char) : Prop :=
  (c == '[') = false ∧ (c == ']') = false

/-- A character of a number: neither white space nor a separator nor a bracket. -/
structure Solid (c : Char) : Prop where
  visible : Text.isWhiteSpace c = false
  kept : separates c = false
  unbracketed : Unbracketed c

theorem solid_of_digit (digit : c.isDigit = true) : Solid c := by
  obtain ⟨n, small, rfl⟩ := Text.isDigit_iff.mp digit
  have all : ∀ n < 10, Text.isWhiteSpace n.digitChar = false ∧ separates n.digitChar = false ∧
      (n.digitChar == '[') = false ∧ (n.digitChar == ']') = false := by decide
  obtain ⟨visible, kept, unbracketed⟩ := all n small
  exact ⟨visible, kept, unbracketed⟩

theorem solid_of_signed (signed : Signed dim text) : ∀ c ∈ text, Solid c := by
  cases signed with
  | plain form => exact fun c member => solid_of_digit (form.digit c member)
  | plus form =>
      refine List.forall_mem_cons.mpr ⟨⟨by decide, by decide, rfl, rfl⟩, ?_⟩
      exact fun c member => solid_of_digit (form.digit c member)
  | minus form =>
      refine List.forall_mem_cons.mpr ⟨⟨by decide, by decide, rfl, rfl⟩, ?_⟩
      exact fun c member => solid_of_digit (form.digit c member)

theorem signed_ne_nil (signed : Signed dim text) : text ≠ [] := by
  cases signed with
  | plain form => exact form.ne_nil
  | plus _ => exact List.cons_ne_nil _ _
  | minus _ => exact List.cons_ne_nil _ _

/-- White space is neither a separator nor a bracket. -/
theorem plain_of_blank (blank : Text.isWhiteSpace c = true) :
    separates c = false ∧ Unbracketed c := by
  have other {d : Char} (visible : Text.isWhiteSpace d = false) : (c == d) = false := by
    rw [beq_eq_false_iff_ne]
    rintro rfl
    rw [blank] at visible
    cases visible
  refine ⟨?_, other (by decide), other (by decide)⟩
  rw [separates, other (by decide), other (by decide)]
  rfl

theorem written_iff : Written dim piece ↔ Signed dim (Text.trim piece) := by
  constructor
  · rintro ⟨front, digits, back, frontBlank, backBlank, signed, rfl⟩
    rw [Text.trim_padded frontBlank backBlank,
      Text.trim_of_solid fun c member => (solid_of_signed signed c member).visible]
    exact signed
  · intro signed
    obtain ⟨front, back, frontBlank, backBlank, parts⟩ := Text.exists_trim piece
    exact ⟨front, _, back, frontBlank, backBlank, signed, parts⟩

theorem dimension?_eq_some_iff :
    dimension? (Text.trim piece) = some dim ↔ InRange dim ∧ Written dim piece := by
  rw [dimension?, Option.filter_eq_some_iff, Text.signedNumeral?_eq_some_iff, written_iff,
    decide_eq_true_iff, and_comm]
  rfl

/-! ### What stands between the brackets -/

theorem dropBrackets_eq_strip (text : List Char) :
    dropBrackets text = strip (· == '[') (· == ']') text := rfl

theorem encloses_inner (text : List Char) :
    ∃ body, Encloses body text ∧ inner text = Text.trim body := by
  obtain ⟨front, back, frontBlank, backBlank, around⟩ := Text.exists_trim text
  obtain ⟨opening, closing, opens, closes, between⟩ :=
    Text.exists_strip (· == '[') (· == ']') (Text.trim text)
  refine ⟨_, ⟨front, opening, closing, back, frontBlank, fun c member => eq_of_beq (opens c member),
    fun c member => eq_of_beq (closes c member), backBlank, ?_⟩, rfl⟩
  rw [dropBrackets_eq_strip]
  calc text
    _ = front ++ Text.trim text ++ back := around
    _ = front ++ (opening ++ strip (· == '[') (· == ']') (Text.trim text) ++ closing) ++ back := by
        rw [← between]
    _ = _ := by simp only [List.append_assoc]

/-- Brackets around a text without brackets are dropped. -/
theorem dropBrackets_enclosed {opening closing : List Char}
    (opens : ∀ c ∈ opening, c = '[') (closes : ∀ c ∈ closing, c = ']')
    (plain : ∀ c ∈ body, Unbracketed c) : dropBrackets (opening ++ body ++ closing) = body := by
  have others : ∀ c ∈ body ++ closing, (c == '[') = false := by
    intro c member
    rcases List.mem_append.mp member with inside | closed
    · exact (plain c inside).1
    · rw [closes c closed]
      decide
  rw [dropBrackets, List.append_assoc,
    Text.dropWhile_append_of_all fun c member => beq_iff_eq.mpr (opens c member),
    Text.dropWhile_of_none others, List.reverse_append,
    Text.dropWhile_append_of_all fun c member =>
      beq_iff_eq.mpr (closes c (List.mem_reverse.mp member)),
    Text.dropWhile_of_none fun c member => (plain c (List.mem_reverse.mp member)).2,
    List.reverse_reverse]

theorem inner_enclosed (encloses : Encloses body text) (plain : ∀ c ∈ body, Unbracketed c) :
    inner text = Text.trim body := by
  obtain ⟨front, opening, closing, back, frontBlank, opens, closes, backBlank, rfl⟩ := encloses
  have visible {bracket : Char} (shown : Text.isWhiteSpace bracket = false) {brackets : List Char}
      (all : ∀ c ∈ brackets, c = bracket) : ∀ c ∈ brackets, Text.isWhiteSpace c = false :=
    fun c member => by rw [all c member, shown]
  obtain ⟨before, kept, behind, beforeBlank, behindBlank, rfl, trimmed⟩ :=
    Text.trim_between (visible (by decide) opens) (visible (by decide) closes) body
  have inside : ∀ c ∈ kept, c ∈ before ++ kept ++ behind := fun c member =>
    List.mem_append_left _ (List.mem_append_right _ member)
  have around : front ++ opening ++ (before ++ kept ++ behind) ++ closing ++ back =
      front ++ (opening ++ (before ++ kept ++ behind) ++ closing) ++ back := by
    simp only [List.append_assoc]
  rw [inner, around, Text.trim_padded frontBlank backBlank, trimmed,
    dropBrackets_enclosed opens closes fun c member => plain c (inside c member),
    Text.trim_padded beforeBlank behindBlank]

/-! ### Numbers between separators -/

theorem readParts_ok_iff {text : String} : readParts text pieces = .ok dims ↔
    (∀ dim ∈ dims, InRange dim) ∧ List.Forall₂ Written dims pieces := by
  rw [← List.forall₂_and_left]
  induction pieces generalizing dims with
  | nil => rw [List.forall₂_nil_right_iff, readParts, Except.ok.injEq, eq_comm]
  | cons piece pieces ih =>
      rw [List.forall₂_cons_right_iff, readParts]
      constructor
      · intro done
        cases read : dimension? (Text.trim piece) with
        | none =>
            rw [read] at done
            cases done
        | some dim =>
            rw [read] at done
            obtain ⟨others, rest, same⟩ := map_eq_ok_iff.mp done
            exact ⟨dim, others, dimension?_eq_some_iff.mp read, ih.mp rest, same.symm⟩
      · rintro ⟨dim, others, first, each, rfl⟩
        rw [dimension?_eq_some_iff.mpr first]
        exact map_eq_ok_iff.mpr ⟨others, ih.mpr each, rfl⟩

theorem readParts_error {text : String} {fault : ShapeFault}
    (failed : readParts text pieces = .error fault) : ∃ part, fault = .unreadable part text := by
  induction pieces with
  | nil => cases failed
  | cons piece pieces ih =>
      rw [readParts] at failed
      split at failed
      · cases failed
        exact ⟨_, rfl⟩
      · exact ih (map_eq_error_iff.mp failed)

theorem readParts_congr {text : String} {pieces others : List (List Char)}
    (same : pieces.map Text.trim = others.map Text.trim) :
    readParts text pieces = readParts text others := by
  induction pieces generalizing others with
  | nil =>
      rw [List.map_nil, eq_comm, List.map_eq_nil_iff] at same
      rw [same]
  | cons piece pieces ih =>
      cases others with
      | nil => cases same
      | cons other others =>
          obtain ⟨first, rest⟩ := List.cons.inj same
          rw [readParts, readParts, first, ih rest]

theorem ofText_of_empty {text : String} (empty : inner text.toList = []) :
    ofText text = .ok ⟨[]⟩ := by
  rw [ofText, empty]

theorem ofText_eq {text : String} (some : inner text.toList ≠ []) :
    ofText text = (readParts text (Text.cut separates (inner text.toList))).map Shape.mk := by
  unfold ofText
  split
  · rename_i empty
    exact (some empty).elim
  · rfl

theorem readParts_inner {text : String} (between : inner text.toList = Text.trim body) :
    readParts text (Text.cut separates (inner text.toList)) =
      readParts text (Text.cut separates body) := by
  refine readParts_congr ?_
  rw [between]
  exact Text.cut_trim (fun c blank => (plain_of_blank blank).1) body

theorem written_plain (written : Written dim piece) : ∀ c ∈ piece, Unbracketed c := by
  obtain ⟨front, digits, back, frontBlank, backBlank, signed, rfl⟩ := written
  intro c member
  rcases List.mem_append.mp member with inside | behind
  · rcases List.mem_append.mp inside with before | digit
    · exact (plain_of_blank (frontBlank c before)).2
    · exact (solid_of_signed signed c digit).unbracketed
  · exact (plain_of_blank (backBlank c behind)).2

theorem separator_plain (separator : separates c = true) : Unbracketed c := by
  rw [separates, Bool.or_eq_true, beq_iff_eq, beq_iff_eq] at separator
  rcases separator with rfl | rfl <;> exact ⟨rfl, rfl⟩

theorem joined_plain (joined : Joined separates pieces body)
    (each : List.Forall₂ Written dims pieces) :
    ∀ c ∈ body, Unbracketed c := by
  induction joined generalizing dims with
  | last _ =>
      obtain ⟨dim, _, written, _, _⟩ := List.forall₂_cons_right_iff.mp each
      exact written_plain written
  | more _ separator _ ih =>
      obtain ⟨dim, others, written, rest, _⟩ := List.forall₂_cons_right_iff.mp each
      intro c member
      rcases List.mem_append.mp member with first | behind
      · exact written_plain written c first
      · rcases List.mem_cons.mp behind with rfl | later
        · exact separator_plain separator
        · exact ih rest c later

/-- A text that lists numbers is read number by number. -/
theorem ofText_joined {text : String} (encloses : Encloses body text.toList)
    (joined : Joined separates pieces body) (each : List.Forall₂ Written dims pieces) :
    ofText text = (readParts text pieces).map Shape.mk := by
  have between : inner text.toList = Text.trim body :=
    inner_enclosed encloses (joined_plain joined each)
  have some : inner text.toList ≠ [] := by
    intro none
    have blank : Blank body := Text.trim_eq_nil_iff.mp (between ▸ none)
    have single : pieces = [body] := joined.cut.symm.trans
      (Joined.last fun c member => (plain_of_blank (blank c member)).1).cut
    obtain ⟨dim, _, written, _, _⟩ := List.forall₂_cons_right_iff.mp (single ▸ each)
    exact signed_ne_nil (written_iff.mp written) (between ▸ none)
  rw [ofText_eq some, readParts_inner between, joined.cut]

/-- Exactly the texts that write dimensions in range are read, with the dimensions they write. -/
theorem ofText_ok_iff {text : String} :
    ofText text = .ok ⟨dims⟩ ↔ Writes dims text.toList ∧ ∀ dim ∈ dims, InRange dim := by
  constructor
  · intro read
    obtain ⟨body, encloses, between⟩ := encloses_inner text.toList
    by_cases none : inner text.toList = []
    · rw [ofText_of_empty none] at read
      cases read
      exact ⟨⟨body, encloses, .none (Text.trim_eq_nil_iff.mp (between ▸ none))⟩, nofun⟩
    · rw [ofText_eq none, readParts_inner between] at read
      obtain ⟨found, parts, same⟩ := map_eq_ok_iff.mp read
      cases same
      obtain ⟨ranges, each⟩ := readParts_ok_iff.mp parts
      exact ⟨⟨body, encloses, .some (Text.joined_cut separates body) each⟩, ranges⟩
  · rintro ⟨⟨body, encloses, listing⟩, ranges⟩
    cases listing with
    | none blank =>
        have between := inner_enclosed encloses fun c member => (plain_of_blank (blank c member)).2
        exact ofText_of_empty (between.trans (Text.trim_eq_nil_iff.mpr blank))
    | some joined each =>
        rw [ofText_joined encloses joined each]
        exact map_eq_ok_iff.mpr ⟨dims, readParts_ok_iff.mpr ⟨ranges, each⟩, rfl⟩

theorem ofText_error {text : String} {fault : ShapeFault} (failed : ofText text = .error fault) :
    ∃ part, fault = .unreadable part text := by
  by_cases none : inner text.toList = []
  · rw [ofText_of_empty none] at failed
    cases failed
  · rw [ofText_eq none] at failed
    exact readParts_error (map_eq_error_iff.mp failed)

/-! ### The text of a shape -/

/-- A piece is the text of a dimension with white space around it. -/
def Shown (dim : Int) (piece : List Char) : Prop :=
  Text.trim piece = (toString dim).toList

theorem signed_toString (dim : Int) : Signed dim (toString dim).toList := by
  have plain (n : Nat) : Text.DecimalForm n n.repr.toList := ⟨0, Nat.toList_repr⟩
  rw [Int.toString_eq_repr, Int.repr_eq_if]
  split
  · rename_i nonnegative
    have form := Signed.plain (plain dim.toNat)
    rwa [Int.toNat_of_nonneg nonnegative] at form
  · rename_i negative
    have form := Signed.minus (plain (-dim).toNat)
    rw [Int.toNat_of_nonneg (by omega), Int.neg_neg] at form
    rwa [String.toList_append]

theorem Shown.written (shown : Shown dim piece) : Written dim piece := by
  rw [written_iff, shown]
  exact signed_toString dim

/-- The numbers of a text are its dimensions, with a comma between any two. -/
theorem joined_shown (some : dims ≠ []) (frontBlank : Blank front) :
    ∃ pieces, Joined separates pieces
        (front ++ [',', ' '].intercalate (dims.map fun dim => (toString dim).toList)) ∧
      List.Forall₂ Shown dims pieces := by
  have solid (dim : Int) : ∀ c ∈ (toString dim).toList, Solid c :=
    solid_of_signed (signed_toString dim)
  have shown (front : List Char) (frontBlank : Blank front) (dim : Int) :
      Shown dim (front ++ (toString dim).toList) := by
    have trimmed := Text.trim_padded frontBlank .nil (toString dim).toList
    rw [List.append_nil] at trimmed
    exact trimmed.trans (Text.trim_of_solid fun c member => (solid dim c member).visible)
  have clean (front : List Char) (frontBlank : Blank front) (dim : Int) :
      ∀ c ∈ front ++ (toString dim).toList, separates c = false := by
    intro c member
    rcases List.mem_append.mp member with before | digit
    · exact (plain_of_blank (frontBlank c before)).1
    · exact (solid dim c digit).kept
  induction dims generalizing front with
  | nil => exact (some rfl).elim
  | cons dim others ih =>
      cases others with
      | nil =>
          rw [List.map_singleton, List.intercalate_singleton]
          exact ⟨_, .last (clean front frontBlank dim), .cons (shown front frontBlank dim) .nil⟩
      | cons next others =>
          have space : Blank [' '] := List.forall_mem_singleton.mpr (by decide)
          obtain ⟨pieces, joined, each⟩ := ih (List.cons_ne_nil next others) space
          refine ⟨_, ?_, .cons (shown front frontBlank dim) each⟩
          have comma : separates ',' = true := by decide
          have parts := Joined.more (clean front frontBlank dim) comma joined
          rw [List.map_cons, List.map_cons, List.intercalate_cons_cons]
          simpa only [List.map_cons, List.append_assoc, List.cons_append,
            List.nil_append] using parts

theorem text_encloses (shape : Shape) :
    Encloses ([',', ' '].intercalate (shape.dims.map fun dim => (toString dim).toList))
      shape.text.toList := by
  refine ⟨[], ['['], [']'], [], .nil, by simp, by simp, .nil, ?_⟩
  rw [text, Text.bracketed, String.toList_append, String.toList_append, String.toList_intercalate,
    List.map_map, List.append_nil, List.nil_append]
  rfl

theorem ofText_text (shape : Shape) (some : shape.dims ≠ []) :
    ∃ pieces, List.Forall₂ Shown shape.dims pieces ∧
      ofText shape.text = (readParts shape.text pieces).map Shape.mk := by
  obtain ⟨pieces, joined, each⟩ := joined_shown some .nil
  exact ⟨pieces, each,
    ofText_joined (text_encloses shape) joined (each.imp fun _ _ => Shown.written)⟩

/-- The text of a shape whose dimensions are in range is read as that shape. -/
theorem ofText_text_of_inRange (shape : Shape) (ranges : ∀ dim ∈ shape.dims, InRange dim) :
    ofText shape.text = .ok shape := by
  obtain ⟨dims⟩ := shape
  refine ofText_ok_iff.mpr ⟨⟨_, text_encloses ⟨dims⟩, ?_⟩, ranges⟩
  by_cases none : dims = []
  · rw [none]
    exact .none .nil
  · obtain ⟨pieces, joined, each⟩ := joined_shown none .nil
    exact .some joined (each.imp fun _ _ => Shown.written)

theorem readParts_outside {text : String} {before after : List Int}
    (each : List.Forall₂ Shown (before ++ dim :: after) pieces)
    (ranges : ∀ dim ∈ before, InRange dim) (outside : ¬ InRange dim) :
    readParts text pieces = .error (.unreadable (toString dim) text) := by
  induction before generalizing pieces with
  | nil =>
      obtain ⟨piece, pieces, shown, _, rfl⟩ := List.forall₂_cons_left_iff.mp each
      have refused : dimension? (Text.trim piece) = none := by
        rw [dimension?, shown, Text.signedNumeral?_eq_some_iff.mpr (signed_toString dim)]
        exact Option.filter_some_neg (by simpa [InRange] using outside)
      rw [readParts, refused, shown, String.ofList_toList]
  | cons first before ih =>
      obtain ⟨piece, pieces, shown, rest, rfl⟩ := List.forall₂_cons_left_iff.mp each
      obtain ⟨inside, others⟩ := List.forall_mem_cons.mp ranges
      rw [readParts, dimension?_eq_some_iff.mpr ⟨inside, shown.written⟩, ih rest others]
      rfl

/-! ### Separators that separate nothing -/

/-- A text without its white space. -/
def visible (text : List Char) : List Char :=
  text.filter fun c => !Text.isWhiteSpace c

/-- A separator comes first, last or directly after another one. -/
inductive Stray : List Char → Prop
  | first {c : Char} {rest : List Char} : separates c = true → Stray (c :: rest)
  | last {c : Char} {front : List Char} : separates c = true → Stray (front ++ [c])
  | adjacent {c d : Char} {front back : List Char} :
      separates c = true → separates d = true → Stray (front ++ c :: d :: back)

/-- A bracket or a separator. -/
def Mark (c : Char) : Prop :=
  c = '[' ∨ c = ']' ∨ separates c = true

/-- Neither of two neighbours is a separator beside a mark. -/
def Apart (c d : Char) : Prop :=
  ¬ (separates c = true ∧ Mark d) ∧ ¬ (Mark c ∧ separates d = true)

theorem Solid.unmarked (solid : Solid c) : ¬ Mark c := by
  rintro (opening | closing | separator)
  · exact ne_of_beq_false solid.unbracketed.1 opening
  · exact ne_of_beq_false solid.unbracketed.2 closing
  · rw [solid.kept] at separator
    cases separator

theorem apart_left {d : Char} (solid : Solid c) : Apart c d :=
  ⟨fun both => by simp [solid.kept] at both, fun both => solid.unmarked both.1⟩

theorem apart_right {d : Char} (solid : Solid d) : Apart c d :=
  ⟨fun both => solid.unmarked both.2, fun both => by simp [solid.kept] at both⟩

theorem apart_chain (kept : ∀ c ∈ text, separates c = false) : text.IsChain Apart :=
  (List.pairwise_of_forall_mem_list fun c first d second =>
    ⟨fun both => by simp [kept c first] at both,
      fun both => by simp [kept d second] at both⟩).isChain

theorem visible_append (front back : List Char) :
    visible (front ++ back) = visible front ++ visible back :=
  List.filter_append front back

theorem visible_blank (blank : Blank text) : visible text = [] :=
  List.filter_eq_nil_iff.mpr fun c member => by simp [blank c member]

theorem visible_solid (shown : ∀ c ∈ text, Text.isWhiteSpace c = false) : visible text = text :=
  List.filter_eq_self.mpr fun c member => by simp [shown c member]

/-- What is visible of a number, and of a list of numbers: it begins and ends with a solid
character. -/
structure Firm (text : List Char) : Prop where
  chain : text.IsChain Apart
  some : text ≠ []
  first : ∀ c ∈ text.head?, Solid c
  last : ∀ c ∈ text.getLast?, Solid c

theorem firm_written (written : Written dim piece) : Firm (visible piece) := by
  obtain ⟨front, digits, back, frontBlank, backBlank, signed, rfl⟩ := written
  have solid := solid_of_signed signed
  rw [visible_append, visible_append, visible_blank frontBlank, visible_blank backBlank,
    visible_solid fun c member => (solid c member).visible, List.nil_append, List.append_nil]
  exact ⟨apart_chain fun c member => (solid c member).kept, signed_ne_nil signed,
    fun c first => solid c (List.mem_of_mem_head? first),
    fun c last => solid c (List.mem_of_getLast? last)⟩

theorem Firm.append {between : List Char} (before : Firm front) (behind : Firm back)
    (chain : between.IsChain Apart) : Firm (front ++ between ++ back) where
  chain := by
    refine List.isChain_append.mpr ⟨List.isChain_append.mpr ⟨before.chain, chain, ?_⟩,
      behind.chain, fun _ _ c first => apart_right (behind.first c first)⟩
    exact fun c last _ _ => apart_left (before.last c last)
  some := by simp [before.some]
  first := by
    rw [List.append_assoc, List.head?_append, Option.or_of_isSome (by simpa using before.some)]
    exact before.first
  last := by
    rw [List.getLast?_append, Option.or_of_isSome (by simpa using behind.some)]
    exact behind.last

theorem firm_joined (joined : Joined separates pieces body)
    (each : List.Forall₂ Written dims pieces) : Firm (visible body) := by
  induction joined generalizing dims with
  | last _ =>
      obtain ⟨dim, _, written, _, _⟩ := List.forall₂_cons_right_iff.mp each
      exact firm_written written
  | @more piece rest pieces c _ separator _ ih =>
      obtain ⟨dim, others, written, others, _⟩ := List.forall₂_cons_right_iff.mp each
      rw [← List.singleton_append, ← List.append_assoc, visible_append, visible_append]
      refine (firm_written written).append (ih others) ?_
      cases blank : Text.isWhiteSpace c with
      | true => rw [visible_blank (List.forall_mem_singleton.mpr blank)]; exact .nil
      | false => rw [visible_solid (List.forall_mem_singleton.mpr blank)]; exact .singleton c

theorem visible_enclosed (encloses : Encloses body text) : ∃ opening closing,
    (∀ c ∈ opening, c = '[') ∧ (∀ c ∈ closing, c = ']') ∧
      visible text = opening ++ visible body ++ closing := by
  obtain ⟨front, opening, closing, back, frontBlank, opens, closes, backBlank, rfl⟩ := encloses
  refine ⟨opening, closing, opens, closes, ?_⟩
  have openingShown : visible opening = opening := visible_solid fun c member => by
    rw [opens c member]
    decide
  have closingShown : visible closing = closing := visible_solid fun c member => by
    rw [closes c member]
    decide
  simp only [visible_append, visible_blank frontBlank, visible_blank backBlank, openingShown,
    closingShown, List.nil_append, List.append_nil]

/-- In a text that is read every separator stands between numbers, also if brackets are put around
the text. -/
theorem chain_of_writes (writes : Writes dims text) :
    (['['] ++ visible text ++ [']']).IsChain Apart := by
  obtain ⟨body, encloses, listing⟩ := writes
  obtain ⟨opening, closing, opens, closes, shown⟩ := visible_enclosed encloses
  have kept : ∀ c ∈ (['['] ++ opening) ++ (closing ++ [']']), separates c = false := by
    intro c member
    have bracket : c = '[' ∨ c = ']' := by
      rcases List.mem_append.mp member with before | behind
      · exact .inl ((List.mem_cons.mp before).elim id (opens c))
      · exact .inr ((List.mem_append.mp behind).elim (closes c) List.mem_singleton.mp)
    rcases bracket with rfl | rfl <;> decide
  have parts : ['['] ++ visible text ++ [']'] =
      (['['] ++ opening) ++ visible body ++ (closing ++ [']']) := by
    rw [shown]
    simp only [List.append_assoc]
  rw [parts]
  cases listing with
  | none blank =>
      rw [visible_blank blank, List.append_nil]
      exact apart_chain kept
  | some joined each =>
      have firm := firm_joined joined each
      have before := apart_chain fun c member => kept c (List.mem_append_left _ member)
      have behind := apart_chain fun c member => kept c (List.mem_append_right _ member)
      refine List.isChain_append.mpr ⟨List.isChain_append.mpr ⟨before, firm.chain, ?_⟩, behind, ?_⟩
      · exact fun _ _ c first => apart_right (firm.first c first)
      · rw [List.getLast?_append, Option.or_of_isSome (by simpa using firm.some)]
        exact fun c last _ _ => apart_left (firm.last c last)

/-- A separator in the wrong place of a body is beside a mark in every text around it. -/
theorem chain_broken (encloses : Encloses body text) (stray : Stray (visible body)) :
    ¬ (['['] ++ visible text ++ [']']).IsChain Apart := by
  obtain ⟨opening, closing, opens, closes, shown⟩ := visible_enclosed encloses
  intro chain
  rw [shown] at chain
  generalize visible body = core at stray chain
  cases stray with
  | @first c rest separator =>
      have parts : ['['] ++ (opening ++ (c :: rest) ++ closing) ++ [']'] =
          ('[' :: opening) ++ (c :: (rest ++ closing ++ [']'])) := by simp
      rw [parts] at chain
      obtain ⟨bracket, found⟩ := Option.ne_none_iff_exists'.mp
        (mt List.getLast?_eq_none_iff.mp (List.cons_ne_nil '[' opening))
      have mark : bracket = '[' :=
        (List.mem_cons.mp (List.mem_of_getLast? found)).elim id (opens bracket)
      exact ((List.isChain_append.mp chain).2.2 bracket found c rfl).2 ⟨.inl mark, separator⟩
  | @last c front separator =>
      have parts : ['['] ++ (opening ++ (front ++ [c]) ++ closing) ++ [']'] =
          (['['] ++ opening ++ front ++ [c]) ++ (closing ++ [']']) := by simp
      rw [parts] at chain
      obtain ⟨bracket, found⟩ := Option.ne_none_iff_exists'.mp
        (mt List.head?_eq_none_iff.mp (by simp : closing ++ [']'] ≠ []))
      have mark : bracket = ']' :=
        (List.mem_append.mp (List.mem_of_mem_head? found)).elim (closes bracket)
          List.mem_singleton.mp
      have last : c ∈ (['['] ++ opening ++ front ++ [c]).getLast? := List.getLast?_concat
      exact ((List.isChain_append.mp chain).2.2 c last bracket found).1
        ⟨separator, .inr (.inl mark)⟩
  | @adjacent c d front back separator another =>
      have parts : ['['] ++ (opening ++ (front ++ c :: d :: back) ++ closing) ++ [']'] =
          (['['] ++ opening ++ front) ++ c :: d :: (back ++ closing ++ [']']) := by simp
      rw [parts] at chain
      exact (List.isChain_append_cons_cons.mp chain).2.1.1 ⟨separator, .inr (.inr another)⟩

/-- A text that begins or ends with a separator, or has two of them side by side, is refused. -/
theorem ofText_stray {text : String} (encloses : Encloses body text.toList)
    (stray : Stray (visible body)) : ∃ part, ofText text = .error (.unreadable part text) := by
  cases read : ofText text with
  | error fault =>
      obtain ⟨part, rfl⟩ := ofText_error read
      exact ⟨part, rfl⟩
  | ok shape =>
      obtain ⟨dims⟩ := shape
      exact (chain_broken encloses stray (chain_of_writes (ofText_ok_iff.mp read).1)).elim

/-- The text of a shape is read as that shape, and refused where a dimension is negative.  The texts
that are read are those that write dimensions in range; what is read from them can be written and
read again.  No separator may be without a number on either side. -/
theorem text_round_trip :
    (∀ shape : Shape, (∀ dim ∈ shape.dims, dim < signedLimit) →
      ((∀ dim ∈ shape.dims, 0 ≤ dim) → ofText shape.text = .ok shape) ∧
      ∀ before dim after, shape.dims = before ++ dim :: after → (∀ d ∈ before, 0 ≤ d) → dim < 0 →
        ofText shape.text = .error (.unreadable (toString dim) shape.text)) ∧
    (∀ text dims, ofText text = .ok ⟨dims⟩ ↔
      Writes dims text.toList ∧ ∀ dim ∈ dims, 0 ≤ dim ∧ dim < signedLimit) ∧
    (∀ text shape, ofText text = .ok shape →
      (∀ dim ∈ shape.dims, 0 ≤ dim) ∧ ofText shape.text = .ok shape) ∧
    ∀ (text : String) body, Encloses body text.toList → Stray (visible body) →
      ∃ part, ofText text = .error (.unreadable part text) := by
  refine ⟨fun shape small => ⟨fun nonnegative => ?_, ?_⟩, fun text dims => ofText_ok_iff,
    fun text shape read => ?_, fun text body encloses stray => ofText_stray encloses stray⟩
  · exact ofText_text_of_inRange shape fun dim member => ⟨nonnegative dim member, small dim member⟩
  · intro before dim after parts nonnegative negative
    obtain ⟨pieces, each, read⟩ := ofText_text shape (by simp [parts])
    rw [parts] at each small
    have inside : ∀ d ∈ before, InRange d := fun d member =>
      ⟨nonnegative d member, small d (List.mem_append_left _ member)⟩
    have outside : ¬ InRange dim := fun range => Int.not_le.mpr negative range.1
    rw [read, readParts_outside each inside outside]
    rfl
  · have ranges := (ofText_ok_iff.mp read).2
    exact ⟨fun dim member => (ranges dim member).1, ofText_text_of_inRange shape ranges⟩

/-- Zeros in front, a plus sign, both separators and any white space are read; a missing number is
not. -/
theorem mixed_forms_read :
    ofText (Shape.text ⟨[2, 8]⟩) = .ok ⟨[2, 8]⟩ ∧
      ofText (Shape.text ⟨[1, -1]⟩) = .error (.unreadable "-1" (Shape.text ⟨[1, -1]⟩)) ∧
      ofText " [007x +3,4 ]\u3000" = .ok ⟨[7, 3, 4]⟩ ∧
      ofText (Shape.text ⟨[7, 3, 4]⟩) = .ok ⟨[7, 3, 4]⟩ ∧
      ∃ part, ofText "[1, ,384]" = .error (.unreadable part "[1, ,384]") := by
  obtain ⟨shown, read, again, refused⟩ := text_round_trip
  have written {dim : Int} {piece : List Char}
      (number : Text.signedNumeral? (Text.trim piece) = some dim) : Written dim piece :=
    written_iff.mpr (Text.signedNumeral?_eq_some_iff.mp number)
  have numbers : List.Forall₂ Written [7, 3, 4] (Text.cut separates "007x +3,4 ".toList) :=
    .cons (written (by decide)) (.cons (written (by decide)) (.cons (written (by decide)) .nil))
  have writes : Writes [7, 3, 4] " [007x +3,4 ]\u3000".toList := by
    refine ⟨"007x +3,4 ".toList, ⟨[' '], ['['], [']'], ['\u3000'], ?_⟩,
      .some (Text.joined_cut separates _) numbers⟩
    exact ⟨List.forall_mem_singleton.mpr (by decide), by simp, by simp,
      List.forall_mem_singleton.mpr (by decide), by decide⟩
  have mixed := (read " [007x +3,4 ]\u3000" [7, 3, 4]).mpr ⟨writes, by decide⟩
  refine ⟨(shown ⟨[2, 8]⟩ (by decide)).1 (by decide),
    (shown ⟨[1, -1]⟩ (by decide)).2 [1] (-1) [] rfl (by decide) (by decide), mixed,
    (again _ _ mixed).2, refused _ "1, ,384".toList ?_ ?_⟩
  · exact ⟨[], ['['], [']'], [], .nil, by simp, by simp, .nil, by decide⟩
  · have adjacent : Stray (['1'] ++ ',' :: ',' :: ['3', '8', '4']) := .adjacent rfl rfl
    exact adjacent

end TextVectors.Shape
