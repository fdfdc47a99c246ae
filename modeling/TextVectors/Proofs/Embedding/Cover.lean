import Mathlib.Algebra.Order.Floor.Div
import TextVectors.Proofs.Embedding.Rows

namespace TextVectors

/-! The windows of an encoding cover it exactly.

Cutting stops at the first window that reaches the end, so their number is known beforehand.  Each
window is the row of what is left of the encoding where it starts.
-/

namespace Window

variable {tokens length stride start rest : Nat} {useTypes : Bool} {encoding : Encoding}

/-- How many windows some tokens take. -/
def countOf (tokens length stride : Nat) : Nat :=
  (tokens - length) ⌈/⌉ stride + 1

theorem ceilDiv_of_pos (some : 0 < rest) (positive : 0 < stride) :
    rest ⌈/⌉ stride = (rest - stride) ⌈/⌉ stride + 1 := by
  have next : rest + stride - 1 = rest - 1 + stride := by omega
  rw [Nat.ceilDiv_eq_add_pred_div, next, Nat.add_div_right _ positive]
  by_cases short : rest ≤ stride
  · rw [Nat.sub_eq_zero_of_le short, zero_ceilDiv, Nat.div_eq_of_lt (by omega)]
  · have former : rest - stride + stride - 1 = rest - 1 := by omega
    rw [Nat.ceilDiv_eq_add_pred_div, former]

theorem countOf_short (short : tokens ≤ length) : countOf tokens length stride = 1 := by
  rw [countOf, Nat.sub_eq_zero_of_le short, zero_ceilDiv]

theorem countOf_long (long : length < tokens) (positive : 0 < stride) :
    countOf tokens length stride = countOf (tokens - stride) length stride + 1 := by
  have later : tokens - length - stride = tokens - stride - length := by omega
  rw [countOf, ceilDiv_of_pos (by omega) positive, later, countOf]

theorem windowsFrom_eq (positive : 0 < stride) (tokens : Tokens) (length : Nat) (useTypes : Bool)
    (start : Nat) :
    tokens.windowsFrom length stride useTypes start =
      (List.range (countOf (tokens.ids.length - start) length stride)).map fun index =>
        tokens.windowAt length useTypes (start + index * stride) := by
  fun_induction Tokens.windowsFrom tokens length stride useTypes start with
  | case1 start window more ih =>
      have long : length < tokens.ids.length - start := by omega
      rw [ih, countOf_long long positive, Nat.sub_sub, List.range_succ_eq_map,
        List.map_cons, List.map_map, Nat.zero_mul, Nat.add_zero]
      congr 2
      funext index
      simp [Nat.add_mul, Nat.add_assoc, Nat.add_comm stride]
  | case2 start window last =>
      rw [countOf_short (by omega)]
      simp [window]

/-- The tokens from a start on are the first ones of what is left of the encoding. -/
theorem windowAt_eq (checked : encoding.check = .ok ()) (length : Nat) (useTypes : Bool)
    (start : Nat) :
    (Tokens.ofEncoding encoding).windowAt length useTypes start =
      ofEncoding length useTypes (encoding.drop start) := by
  have widened (words : List Nat) : (widen words).drop start = widen (words.drop start) := by
    simp [widen]
  have mask : padded length ((Tokens.ofEncoding encoding).mask.drop start) =
      (ofEncoding length useTypes (encoding.drop start)).mask := by
    by_cases absent : encoding.mask = []
    · have derived : (deriveMask (widen encoding.ids)).drop start =
          deriveMask (widen (encoding.ids.drop start)) := by
        simp [deriveMask, widen]
      simp [Tokens.ofEncoding, ofEncoding, Encoding.drop, absent, derived, deriveMask_padded]
    · have whole := (Encoding.check_iff.mp checked).1.resolve_left absent
      by_cases past : encoding.mask.length ≤ start
      · -- Nothing is left, neither of the mask nor of the ids that it would be derived from.
        have maskPast : encoding.mask.drop start = [] := List.drop_of_length_le past
        have idsPast : encoding.ids.drop start = [] := List.drop_of_length_le (by omega)
        have derived : deriveMask (padded length (widen [])) = padded length (widen []) :=
          deriveMask_padded length (widen [])
        simp [Tokens.ofEncoding, ofEncoding, Encoding.drop, absent, widened, maskPast, idsPast,
          derived]
      · simp [Tokens.ofEncoding, ofEncoding, Encoding.drop, absent, past, widened]
  unfold Tokens.windowAt
  rw [mask]
  simp [Tokens.ofEncoding, ofEncoding, Encoding.drop, widened]

theorem split_eq (checked : encoding.check = .ok ()) (strided : 0 < stride)
    (within : stride ≤ length) (useTypes : Bool) :
    split encoding length stride useTypes =
      .ok ((List.range (countOf encoding.ids.length length stride)).map fun index =>
        (Tokens.ofEncoding encoding).windowAt length useTypes (index * stride)) := by
  have usable : ¬ (stride = 0 ∨ stride > length) := by omega
  unfold split
  rw [if_neg (by omega), if_neg usable, checked]
  by_cases none : encoding.ids = []
  · simp [none, countOf_short, windowAt_zero, blank_eq_ofEncoding checked none]
  · have full : ¬ encoding.ids.isEmpty = true := by simpa using none
    have counted : (Tokens.ofEncoding encoding).ids.length = encoding.ids.length := by
      simp [Tokens.ofEncoding, widen]
    simp only [if_neg full, windowsFrom_eq strided, counted, Nat.zero_add, Nat.sub_zero]
    rfl

theorem split_short (strided : ¬ (stride = 0 ∨ stride > length))
    (checked : encoding.check = .ok ()) (short : encoding.ids.length ≤ length) :
    split encoding length stride useTypes = .ok [ofEncoding length useTypes encoding] := by
  rw [split_eq checked (by omega) (by omega), countOf_short short]
  simp [windowAt_zero]

theorem usable_of_split {windows : List Window}
    (cut : split encoding length stride useTypes = .ok windows) :
    0 < length ∧ 0 < stride ∧ stride ≤ length ∧ encoding.check = .ok () := by
  unfold split at cut
  obtain ⟨positive, cut⟩ := ok_of_guard cut
  obtain ⟨strided, cut⟩ := ok_of_guard cut
  obtain ⟨_, checked, -⟩ := ok_of_bind cut
  exact ⟨by omega, by omega, by omega, checked⟩

/-- The entry of a token, and zero beyond the end. -/
def cell (words : List Nat) (position : Nat) : Int :=
  words.getD position 0

/-- The mask of a token.  Where none is given, every id but zero counts. -/
def maskCell (encoding : Encoding) (position : Nat) : Int :=
  if encoding.mask = [] then if cell encoding.ids position = 0 then 0 else 1
  else cell encoding.mask position

/-- A window that shows the tokens from a start on, in every part that it has. -/
structure Shows (encoding : Encoding) (length : Nat) (useTypes : Bool) (start : Nat)
    (window : Window) : Prop where
  ids : window.ids = (List.range length).map fun offset => cell encoding.ids (start + offset)
  mask : window.mask = (List.range length).map fun offset => maskCell encoding (start + offset)
  types : window.types = if useTypes then
    some ((List.range length).map fun offset => cell encoding.types (start + offset)) else none

theorem padded_drop (length start : Nat) (entries : List Int) :
    padded length (entries.drop start) =
      (List.range length).map fun offset => entries.getD (start + offset) 0 := by
  apply List.ext_getElem
  · simp [length_padded]
  · intro offset within _
    rw [length_padded] at within
    by_cases inside : start + offset < entries.length
    · have taken : offset < ((entries.drop start).take length).length := by
        rw [List.length_take, List.length_drop]
        omega
      simp [padded, List.getElem_append_left taken, inside]
    · have beyond : ((entries.drop start).take length).length ≤ offset := by
        rw [List.length_take, List.length_drop]
        omega
      simp [padded, List.getElem_append_right beyond, inside]

theorem getD_widen (words : List Nat) (position : Nat) :
    (widen words).getD position 0 = cell words position := by
  rw [cell, widen, List.getD_eq_getElem?_getD, List.getD_eq_getElem?_getD, List.getElem?_map]
  cases words[position]? <;> rfl

theorem getD_deriveMask (words : List Nat) (position : Nat) :
    (deriveMask (widen words)).getD position 0 = if cell words position = 0 then 0 else 1 := by
  rw [← getD_widen, deriveMask, List.getD_eq_getElem?_getD, List.getD_eq_getElem?_getD,
    List.getElem?_map]
  cases (widen words)[position]? <;> rfl

theorem windowAt_shows (encoding : Encoding) (length : Nat) (useTypes : Bool) (start : Nat) :
    Shows encoding length useTypes start
      ((Tokens.ofEncoding encoding).windowAt length useTypes start) where
  ids := by
    simp only [Tokens.windowAt, Tokens.ofEncoding, padded_drop, getD_widen]
  mask := by
    simp only [Tokens.windowAt, Tokens.ofEncoding, padded_drop, maskCell]
    by_cases absent : encoding.mask = []
    · simp only [absent, List.isEmpty_nil, if_true, getD_deriveMask]
    · simp only [absent, List.isEmpty_iff, if_false, getD_widen]
  types := by
    simp only [Tokens.windowAt, Tokens.ofEncoding, padded_drop, getD_widen]

/-- Windows that cover an encoding: no more than it takes, each with the tokens from its start
on, none of them left out. -/
structure Covers (encoding : Encoding) (length stride : Nat) (useTypes : Bool)
    (windows : List Window) : Prop where
  count : windows.length =
    if encoding.ids.length ≤ length then 1 else 1 + (encoding.ids.length - length) ⌈/⌉ stride
  shows : ∀ index window, windows[index]? = some window →
    Shows encoding length useTypes (index * stride) window
  complete : ∀ position < encoding.ids.length,
    ∃ index < windows.length, ∃ offset < length, index * stride + offset = position
  last : ∀ index < windows.length,
    encoding.ids.length ≤ index * stride + length ↔ index + 1 = windows.length

theorem reaches_iff (positive : 0 < stride) (tokens length index : Nat) :
    tokens ≤ index * stride + length ↔ countOf tokens length stride ≤ index + 1 := by
  rw [countOf, Nat.add_le_add_iff_right, ceilDiv_le_iff_le_mul positive, Nat.mul_comm]
  omega

/-- A token is in the window that starts last before it, or else in the last window. -/
theorem exists_window (strided : 0 < stride) (within : stride ≤ length) {position : Nat}
    (inside : position < tokens) :
    ∃ index < countOf tokens length stride, ∃ offset < length,
      index * stride + offset = position := by
  by_cases early : position / stride < countOf tokens length stride
  · have offset : position % stride < stride := Nat.mod_lt _ strided
    exact ⟨position / stride, early, position % stride, by omega, Nat.div_add_mod' _ _⟩
  · obtain ⟨last, counted⟩ : ∃ last, countOf tokens length stride = last + 1 := ⟨_, rfl⟩
    have reached : tokens ≤ last * stride + length :=
      (reaches_iff strided tokens length last).mpr (Nat.le_of_eq counted)
    have started : last * stride ≤ position :=
      (Nat.le_div_iff_mul_le strided).mp (by omega)
    exact ⟨last, by omega, position - last * stride, by omega, by omega⟩

/-- Cutting an encoding whose parts belong together gives windows that cover it, and every other
length, stride and encoding is refused. -/
theorem split_covers (encoding : Encoding) (length stride : Nat) (useTypes : Bool) :
    let usable := 0 < length ∧ 0 < stride ∧ stride ≤ length ∧
      (encoding.mask = [] ∨ encoding.mask.length = encoding.ids.length) ∧
      (encoding.types = [] ∨ encoding.types.length = encoding.ids.length)
    (usable → ∃ windows, split encoding length stride useTypes = .ok windows ∧
      Covers encoding length stride useTypes windows) ∧
    (¬ usable → ∃ fault, split encoding length stride useTypes = .error fault) := by
  intro usable
  constructor
  · rintro ⟨-, strided, within, parts⟩
    refine ⟨_, split_eq (Encoding.check_iff.mpr parts) strided within useTypes, ?_⟩
    constructor
    case count =>
      rw [List.length_map, List.length_range]
      split
      · exact countOf_short ‹_›
      · exact Nat.add_comm _ 1
    case shows =>
      intro index window found
      rw [List.getElem?_map, Option.map_eq_some_iff] at found
      obtain ⟨_, range, rfl⟩ := found
      obtain ⟨_, rfl⟩ := List.getElem?_eq_some_iff.mp range
      rw [List.getElem_range]
      exact windowAt_shows encoding length useTypes _
    case complete =>
      intro position inside
      rw [List.length_map, List.length_range]
      exact exists_window strided within inside
    case last =>
      intro index inside
      rw [List.length_map, List.length_range] at inside ⊢
      rw [reaches_iff strided]
      omega
  · intro refused
    cases cut : split encoding length stride useTypes with
    | error fault => exact ⟨fault, rfl⟩
    | ok windows =>
        obtain ⟨positive, strided, within, checked⟩ := usable_of_split cut
        exact absurd ⟨positive, strided, within, Encoding.check_iff.mp checked⟩ refused

/-- Six tokens without a mask, one of them with id zero. -/
def unevenTokens : Encoding where
  ids := [5, 0, 7, 8, 9, 10]
  mask := []
  types := [0, 0, 0, 1, 1, 1]

def unevenRows : List Window :=
  [⟨[5, 0, 7, 8], [1, 0, 1, 1], some [0, 0, 0, 1]⟩,
    ⟨[8, 9, 10, 0], [1, 1, 1, 0], some [1, 1, 1, 0]⟩]

theorem split_unevenTokens : split unevenTokens 4 3 true = .ok unevenRows := by
  decide +kernel

theorem uneven_tokens_covered :
    split unevenTokens 4 3 true = .ok unevenRows ∧ Covers unevenTokens 4 3 true unevenRows ∧
      ∃ fault, split unevenTokens 4 5 true = .error fault := by
  obtain ⟨windows, cut, covers⟩ := (split_covers unevenTokens 4 3 true).1 (by decide)
  rw [split_unevenTokens] at cut
  cases cut
  exact ⟨split_unevenTokens, covers, (split_covers unevenTokens 4 5 true).2 (by decide)⟩

end Window

end TextVectors
