import TextVectors.Text.Cut
import TextVectors.Text.LetterCase
import TextVectors.Text.Quoted
import TextVectors.Text.WordCharacter
import TextVectors.Tokenizer.Basic

namespace TextVectors

/-! Tokenizers that cut words into pieces of a vocabulary.

A text is cut at the special tokens in it; the parts between are put into lower
case and split into runs of word characters and runs of other visible
characters.  Each run is matched greedily, longest piece first, and pieces inside
a word carry a mark in front.  A run that cannot be matched is one unknown token.
-/

/-- The tokens put around every text. -/
structure Template where
  first : String
  last : String
  /-- Type id of the last token; all others have type id zero. -/
  lastType : Nat
deriving Repr, DecidableEq

structure WordPiece where
  /-- The tokens, by ascending id from zero. -/
  vocabulary : List String
  special : List String
  unknown : String
  /-- The mark in front of a piece inside a word. -/
  inner : String
  /-- Longer words are unknown without being matched. -/
  longestWord : Nat
  template : Option Template
deriving Repr, DecidableEq

namespace WordPiece

def id? (definition : WordPiece) (token : String) : Option Nat :=
  definition.vocabulary.findIdx? (· == token)

/-- A part of a text: ordinary characters, or a special token. -/
inductive Part where
  | plain (text : List Char)
  | special (token : String)
deriving Repr, DecidableEq

/-- The special token that the text begins with, and the rest behind it. -/
def specialAt? (definition : WordPiece) (text : List Char) : Option (String × List Char) :=
  definition.special.findSome? fun token =>
    (Text.after? token.toList text).map fun rest => (token, rest)

/-- Cuts out the special tokens from left to right. -/
def parts (definition : WordPiece) : Nat → List Char → List Part
  | 0, _ => []
  | _ + 1, [] => []
  | fuel + 1, c :: rest =>
      match definition.specialAt? (c :: rest) with
      | some (token, after) => .special token :: definition.parts fuel after
      | none =>
          match definition.parts fuel rest with
          | .plain text :: others => .plain (c :: text) :: others
          | others => .plain [c] :: others

/-- The two kinds of runs: word characters, and everything else that is visible. -/
inductive RunKind where
  | word
  | mark
deriving DecidableEq

def runKind? (c : Char) : Option RunKind :=
  if Text.isWordCharacter c then some .word
  else if Text.isWhiteSpace c then none
  else some .mark

/-- Maximal runs of one kind, each with its kind. -/
def taggedRuns : List Char → List (RunKind × List Char)
  | [] => []
  | [c] =>
      match runKind? c with
      | none => []
      | some kind => [(kind, [c])]
  | c :: next :: rest =>
      match runKind? c with
      | none => taggedRuns (next :: rest)
      | some kind =>
          match taggedRuns (next :: rest) with
          | (other, run) :: others =>
              if runKind? next = some kind ∧ other = kind then (kind, c :: run) :: others
              else (kind, [c]) :: (other, run) :: others
          | [] => [(kind, [c])]

def runs (text : List Char) : List (List Char) :=
  (taggedRuns text).map (·.2)

/-- The longest beginning of `word`, at most `count` characters, that is a token
behind the given mark; with the number of characters it takes. -/
def longestPiece? (definition : WordPiece) (mark : List Char) (word : List Char) :
    Nat → Option (Nat × Nat)
  | 0 => none
  | count + 1 =>
      match definition.id? (String.ofList (mark ++ word.take (count + 1))) with
      | some id => some (id, count + 1)
      | none => definition.longestPiece? mark word count

/-- The pieces of what is left of a word; nothing when some piece is missing. -/
def matchPieces? (definition : WordPiece) (mark : List Char) : Nat → List Char → Option (List Nat)
  | _, [] => some []
  | 0, _ :: _ => none
  | fuel + 1, word =>
      match definition.longestPiece? mark word word.length with
      | none => none
      | some (id, count) =>
          (definition.matchPieces? definition.inner.toList fuel (word.drop count)).map (id :: ·)

def encodeWord (definition : WordPiece) (word : List Char) : Except TokenizerError (List Nat) :=
  let pieces :=
    if word.length > definition.longestWord then none
    else definition.matchPieces? [] word.length word
  match pieces with
  | some ids => .ok ids
  | none =>
      match definition.id? definition.unknown with
      | some id => .ok [id]
      | none =>
          .error (.encodeFailed
            s!"WordPiece error: Missing {definition.unknown} token from the vocabulary")

def encodePart (definition : WordPiece) : Part → Except TokenizerError (List Nat)
  | .special token => .ok (definition.id? token).toList
  | .plain text => do
      let words ← (runs (Text.lower text)).mapM definition.encodeWord
      return words.flatten

/-- The ids of a text, without what is put around it. -/
def encodeText (definition : WordPiece) (text : String) : Except TokenizerError (List Nat) := do
  let chars := text.toList
  let parts ← (definition.parts (chars.length + 1) chars).mapM definition.encodePart
  return parts.flatten

/-- How many tokens are put around a text. -/
def addedTokens (definition : WordPiece) : Nat :=
  match definition.template with
  | none => 0
  | some _ => 2

/-- Puts the template's tokens around ids; every entry is an id with its type. -/
def surround (definition : WordPiece) (ids : List Nat) : List (Nat × Nat) :=
  let middle := ids.map fun id => (id, 0)
  match definition.template with
  | none => middle
  | some template =>
      ((definition.id? template.first).toList.map fun id => (id, 0)) ++ middle ++
        ((definition.id? template.last).toList.map fun id => (id, template.lastType))

/-- Encodes a text.  With a fixed length, ids are dropped on the right so that
the whole encoding fits it, and missing ones are filled up with masked zeros. -/
def encode (definition : WordPiece) (fixedLength : Option Nat) (text : String) :
    Except TokenizerError Encoding := do
  let ids ← definition.encodeText text
  let kept := match fixedLength with
    | none => ids
    | some length => ids.take (length - definition.addedTokens)
  let entries := definition.surround kept
  let padding := match fixedLength with
    | none => 0
    | some length => length - entries.length
  let pad := List.replicate padding 0
  return {
    ids := entries.map (·.1) ++ pad
    mask := entries.map (fun _ => 1) ++ pad
    types := entries.map (·.2) ++ pad }

/-- Drops the space in front of closing punctuation. -/
def cleanUp : List Char → List Char
  | ' ' :: c :: rest =>
      if c = '.' ∨ c = '?' ∨ c = '!' ∨ c = ',' then c :: cleanUp rest
      else ' ' :: cleanUp (c :: rest)
  | c :: rest => c :: cleanUp rest
  | [] => []

/-- A token behind the first one: joined to the word if it is marked as a piece
inside a word, otherwise set off by a space. -/
def joinToken (definition : WordPiece) (token : String) : List Char :=
  match Text.after? definition.inner.toList token.toList with
  | some rest => rest
  | none => ' ' :: token.toList

/-- The text of token ids; ids that are no token are left out. -/
def decode (definition : WordPiece) (ids : List Nat) (skipSpecial : Bool) : String :=
  let tokens := (ids.filterMap fun id => definition.vocabulary[id]?).filter fun token =>
    !(skipSpecial && definition.special.contains token)
  match tokens with
  | [] => ""
  | first :: rest =>
      String.ofList (cleanUp first.toList ++ rest.flatMap fun token =>
        cleanUp (definition.joinToken token))

/-- A vocabulary that is empty counts as unknown. -/
def vocabularySize (definition : WordPiece) : Option Nat :=
  match definition.vocabulary.length with
  | 0 => none
  | size => some size

/-- A fixed length must be positive. -/
def checkFixedLength (length : Nat) : Except TokenizerError Unit :=
  if length = 0 then .error (.invalidInput "fixed length must be > 0") else .ok ()

def tokenizer (definition : WordPiece) (fixedLength : Option Nat) : Tokenizer where
  encode := definition.encode fixedLength
  decode := fun ids skipSpecial => .ok (definition.decode ids skipSpecial)
  vocabularySize := definition.vocabularySize

/-- Description of a tokenizer with its fixed length. -/
def description (definition : WordPiece) (fixedLength : Option Nat) : String :=
  Text.braced "Tokenizer" [
    ("vocab_size", toString definition.vocabulary.length),
    ("fixed_length", Text.optionText (fixedLength.map toString))]

end WordPiece

end TextVectors
