namespace TextVectors.Text

/-! White space, trimming and splitting into words.

Texts are handled as lists of characters; the functions on `String` only wrap
them.  White space is the Unicode property of that name, which has 25 members.
-/

/-- Membership of a code point in a table of closed ranges. -/
def inRanges (ranges : List (Nat × Nat)) (code : Nat) : Bool :=
  ranges.any fun range => range.1 ≤ code && code ≤ range.2

/-- The characters with the Unicode property White_Space. -/
def whiteSpaceRanges : List (Nat × Nat) :=
  [(0x09, 0x0D), (0x20, 0x20), (0x85, 0x85), (0xA0, 0xA0), (0x1680, 0x1680),
   (0x2000, 0x200A), (0x2028, 0x2029), (0x202F, 0x202F), (0x205F, 0x205F),
   (0x3000, 0x3000)]

def isWhiteSpace (c : Char) : Bool :=
  inRanges whiteSpaceRanges c.toNat

/-- Every character that core calls whitespace belongs to the property. -/
theorem isWhiteSpace_of_isWhitespace (c : Char) (blank : c.isWhitespace = true) :
    isWhiteSpace c = true := by
  simp [Char.isWhitespace] at blank
  rcases blank with ((blank | blank) | blank) | blank <;> subst blank <;> decide

def trimStart (text : List Char) : List Char :=
  text.dropWhile isWhiteSpace

def trimEnd (text : List Char) : List Char :=
  (text.reverse.dropWhile isWhiteSpace).reverse

def trim (text : List Char) : List Char :=
  trimEnd (trimStart text)

/-- The maximal runs of characters that are not white space, in order. -/
def words : List Char → List (List Char)
  | [] => []
  | c :: rest =>
      if isWhiteSpace c then words rest
      else
        match rest, words rest with
        | next :: _, word :: others =>
            if isWhiteSpace next then [c] :: word :: others
            else (c :: word) :: others
        | _, found => [c] :: found

end TextVectors.Text
