import Mathlib.Data.List.TakeWhile
import TextVectors.Text.Cut
import TextVectors.Text.WhiteSpace

namespace TextVectors.Text

/-! Trimming a text, and cutting it into pieces.

A text is its trimmed form with white space around it, and it is its pieces with one separator
between any two of them.  Where no separator is white space, trimming a text before it is cut only
trims the first and the last piece.
-/

variable {separates p q : Char → Bool} {text front core back piece rest : List Char}
variable {pieces : List (List Char)} {c : Char}

/-- Nothing but white space. -/
def Blank (text : List Char) : Prop :=
  ∀ c ∈ text, isWhiteSpace c = true

theorem Blank.nil : Blank [] := nofun

theorem Blank.append (front : Blank piece) (back : Blank rest) : Blank (piece ++ rest) := by
  intro c member
  rcases List.mem_append.mp member with before | behind
  · exact front c before
  · exact back c behind

/-- A text without some characters at the start and without others at the end. -/
def strip (p q : Char → Bool) (text : List Char) : List Char :=
  ((text.dropWhile p).reverse.dropWhile q).reverse

theorem trim_eq_strip (text : List Char) : trim text = strip isWhiteSpace isWhiteSpace text := rfl

/-- What was stripped stood around the rest. -/
theorem exists_strip (p q : Char → Bool) (text : List Char) :
    ∃ front back, (∀ c ∈ front, p c = true) ∧ (∀ c ∈ back, q c = true) ∧
      text = front ++ strip p q text ++ back := by
  refine ⟨text.takeWhile p, ((text.dropWhile p).reverse.takeWhile q).reverse,
    fun c => List.mem_takeWhile_imp, fun c member => ?_, ?_⟩
  · exact List.mem_takeWhile_imp (List.mem_reverse.mp member)
  · rw [strip, List.append_assoc, ← List.reverse_append, List.takeWhile_append_dropWhile,
      List.reverse_reverse, List.takeWhile_append_dropWhile]

theorem exists_trim (text : List Char) :
    ∃ front back, Blank front ∧ Blank back ∧ text = front ++ trim text ++ back := by
  rw [trim_eq_strip]
  exact exists_strip isWhiteSpace isWhiteSpace text

theorem dropWhile_append_of_all (all : ∀ c ∈ front, p c = true) (rest : List Char) :
    (front ++ rest).dropWhile p = rest.dropWhile p := by
  rw [List.dropWhile_append, List.dropWhile_eq_nil_iff.mpr all]
  rfl

theorem dropWhile_append_of_head (some : core ≠ []) (kept : ∀ c ∈ core.head?, p c = false)
    (front : List Char) : (front ++ core).dropWhile p = front.dropWhile p ++ core := by
  obtain ⟨c, rest, rfl⟩ := List.exists_cons_of_ne_nil some
  have first : p c = false := kept c rfl
  rw [List.dropWhile_append, List.dropWhile_cons_of_neg (by simp [first])]
  split
  · rename_i none
    rw [List.isEmpty_iff.mp none, List.nil_append]
  · rfl

theorem dropWhile_of_none (none : ∀ c ∈ text, p c = false) : text.dropWhile p = text := by
  cases text with
  | nil => rfl
  | cons c rest => rw [List.dropWhile_cons_of_neg (by simp [none c List.mem_cons_self])]

theorem trim_eq_nil_iff : trim text = [] ↔ Blank text := by
  constructor
  · intro none
    obtain ⟨front, back, frontBlank, backBlank, parts⟩ := exists_trim text
    rw [parts, none, List.append_nil]
    exact frontBlank.append backBlank
  · intro blank
    rw [trim, trimStart, List.dropWhile_eq_nil_iff.mpr blank]
    rfl

/-- White space around a text is trimmed away with it. -/
theorem trim_padded (frontBlank : Blank front) (backBlank : Blank back) (text : List Char) :
    trim (front ++ text ++ back) = trim text := by
  rw [trim, trim, trimStart, trimStart, List.append_assoc, dropWhile_append_of_all frontBlank,
    List.dropWhile_append]
  split
  · rename_i none
    rw [List.dropWhile_eq_nil_iff.mpr backBlank, List.isEmpty_iff.mp none]
  · rw [trimEnd, trimEnd, List.reverse_append,
      dropWhile_append_of_all fun c member => backBlank c (List.mem_reverse.mp member)]

theorem trim_of_solid (solid : ∀ c ∈ text, isWhiteSpace c = false) : trim text = text := by
  rw [trim, trimStart, dropWhile_of_none solid, trimEnd,
    dropWhile_of_none fun c member => solid c (List.mem_reverse.mp member), List.reverse_reverse]

/-- Between characters that are no white space nothing is trimmed; where there are none in front,
the white space behind them is what comes first. -/
theorem dropWhile_between {opening closing : List Char}
    (opens : ∀ c ∈ opening, isWhiteSpace c = false)
    (closes : ∀ c ∈ closing, isWhiteSpace c = false) (body : List Char) :
    ∃ front kept, Blank front ∧ body = front ++ kept ∧
      (opening ++ body ++ closing).dropWhile isWhiteSpace = opening ++ kept ++ closing := by
  cases opening with
  | cons c rest =>
      refine ⟨[], body, .nil, rfl, ?_⟩
      rw [List.cons_append, List.cons_append,
        List.dropWhile_cons_of_neg (by simp [opens c List.mem_cons_self])]
  | nil =>
      refine ⟨body.takeWhile isWhiteSpace, body.dropWhile isWhiteSpace,
        fun c => List.mem_takeWhile_imp, List.takeWhile_append_dropWhile.symm, ?_⟩
      rw [List.nil_append, List.nil_append]
      by_cases none : closing = []
      · rw [none, List.append_nil, List.append_nil]
      · exact dropWhile_append_of_head none
          (fun c first => closes c (List.mem_of_mem_head? first)) body

theorem trim_between {opening closing : List Char}
    (opens : ∀ c ∈ opening, isWhiteSpace c = false)
    (closes : ∀ c ∈ closing, isWhiteSpace c = false) (body : List Char) :
    ∃ front kept back, Blank front ∧ Blank back ∧ body = front ++ kept ++ back ∧
      trim (opening ++ body ++ closing) = opening ++ kept ++ closing := by
  obtain ⟨front, rest, frontBlank, body_eq, started⟩ := dropWhile_between opens closes body
  obtain ⟨back, kept, backBlank, rest_eq, ended⟩ := dropWhile_between
    (fun c member => closes c (List.mem_reverse.mp member))
    (fun c member => opens c (List.mem_reverse.mp member)) rest.reverse
  have parts : rest = kept.reverse ++ back.reverse := by
    rw [← List.reverse_append, ← rest_eq, List.reverse_reverse]
  refine ⟨front, kept.reverse, back.reverse, frontBlank,
    fun c member => backBlank c (List.mem_reverse.mp member), ?_, ?_⟩
  · rw [body_eq, parts, List.append_assoc]
  · rw [trim, trimStart, started, trimEnd, List.reverse_append, List.reverse_append,
      ← List.append_assoc, ended]
    simp only [List.reverse_append, List.reverse_reverse, List.append_assoc]

/-- Pieces without a separator in them, with a separator between any two. -/
inductive Joined (separates : Char → Bool) : List (List Char) → List Char → Prop
  | last {piece : List Char} : (∀ c ∈ piece, separates c = false) → Joined separates [piece] piece
  | more {piece rest : List Char} {pieces : List (List Char)} {c : Char} :
      (∀ c ∈ piece, separates c = false) → separates c = true → Joined separates pieces rest →
        Joined separates (piece :: pieces) (piece ++ c :: rest)

theorem Joined.cut (joined : Joined separates pieces text) : cut separates text = pieces := by
  induction joined with
  | @last piece clean =>
      induction piece with
      | nil => rfl
      | cons c rest ih =>
          obtain ⟨first, others⟩ := List.forall_mem_cons.mp clean
          rw [Text.cut, if_neg (by simp [first]), ih others]
  | @more piece rest pieces c clean separator _ read =>
      induction piece with
      | nil => rw [List.nil_append, Text.cut, if_pos separator, read]
      | cons first piece ih =>
          obtain ⟨kept, others⟩ := List.forall_mem_cons.mp clean
          rw [List.cons_append, Text.cut, if_neg (by simp [kept]), ih others]

/-- A character that does not separate belongs to the first piece. -/
theorem Joined.cons (joined : Joined separates pieces text) (kept : separates c = false) :
    ∃ piece others, pieces = piece :: others ∧
      Joined separates ((c :: piece) :: others) (c :: text) := by
  cases joined with
  | last clean => exact ⟨_, _, rfl, .last (List.forall_mem_cons.mpr ⟨kept, clean⟩)⟩
  | more clean separator others =>
      exact ⟨_, _, rfl, .more (List.forall_mem_cons.mpr ⟨kept, clean⟩) separator others⟩

theorem joined_cut (separates : Char → Bool) (text : List Char) :
    Joined separates (cut separates text) text := by
  induction text with
  | nil => exact .last nofun
  | cons c rest ih =>
      rw [cut]
      split
      · rename_i separator
        exact .more nofun separator ih
      · rename_i kept
        obtain ⟨piece, others, same, joined⟩ := ih.cons (Bool.eq_false_iff.mpr kept)
        rw [same]
        exact joined

theorem cut_eq_iff : cut separates text = pieces ↔ Joined separates pieces text :=
  ⟨fun same => same ▸ joined_cut separates text, Joined.cut⟩

/-- White space in front goes to the first piece, white space behind to the last. -/
theorem Joined.padded (blanks : ∀ c, isWhiteSpace c = true → separates c = false)
    (joined : Joined separates pieces text) (frontBlank : Blank front)
    (backBlank : Blank back) :
    ∃ padded, Joined separates padded (front ++ text ++ back) ∧
      padded.map trim = pieces.map trim := by
  have clean {front back piece : List Char} (frontBlank : Blank front) (backBlank : Blank back)
      (clean : ∀ c ∈ piece, separates c = false) :
      ∀ c ∈ front ++ piece ++ back, separates c = false := by
    intro c member
    rcases List.mem_append.mp member with inside | behind
    · rcases List.mem_append.mp inside with before | within
      · exact blanks c (frontBlank c before)
      · exact clean c within
    · exact blanks c (backBlank c behind)
  induction joined generalizing front with
  | @last piece kept =>
      refine ⟨_, .last (clean frontBlank backBlank kept), ?_⟩
      rw [List.map_singleton, List.map_singleton, trim_padded frontBlank backBlank]
  | @more piece rest pieces c kept separator _ ih =>
      obtain ⟨padded, joined, same⟩ := ih .nil
      refine ⟨(front ++ piece ++ []) :: padded, ?_, ?_⟩
      · have parts := Joined.more (clean frontBlank .nil kept) separator joined
        simpa only [List.append_assoc, List.nil_append, List.append_nil,
          List.cons_append] using parts
      · rw [List.map_cons, List.map_cons, trim_padded frontBlank .nil, same]

theorem cut_trim (blanks : ∀ c, isWhiteSpace c = true → separates c = false) (text : List Char) :
    (cut separates (trim text)).map trim = (cut separates text).map trim := by
  obtain ⟨front, back, frontBlank, backBlank, parts⟩ := exists_trim text
  obtain ⟨padded, joined, same⟩ :=
    (joined_cut separates (trim text)).padded blanks frontBlank backBlank
  rw [← parts] at joined
  rw [joined.cut, same]

end TextVectors.Text
