namespace TextVectors

/-! What a tokenizer does: it turns a text into token ids with a mask and type
ids beside them, and token ids back into a text.
-/

/-- Token ids of one text.  The mask and the type ids are as long as the ids, or
empty where a tokenizer does not produce them. -/
structure Encoding where
  ids : List Nat
  mask : List Nat
  types : List Nat
deriving Repr, DecidableEq, Inhabited

inductive TokenizerError where
  | loadFailed (reason : String)
  | configFailed (reason : String)
  | encodeFailed (reason : String)
  | decodeFailed (reason : String)
  | invalidInput (reason : String)
deriving Repr, DecidableEq

def TokenizerError.message : TokenizerError → String
  | .loadFailed reason => s!"Failed to load tokenizer: {reason}"
  | .configFailed reason => s!"Failed to configure tokenizer: {reason}"
  | .encodeFailed reason => s!"Failed to encode text: {reason}"
  | .decodeFailed reason => s!"Failed to decode tokens: {reason}"
  | .invalidInput reason => s!"Invalid input: {reason}"

/-- A tokenizer, known by what it answers.  The vocabulary size may be unknown. -/
structure Tokenizer where
  encode : String → Except TokenizerError Encoding
  decode : List Nat → Bool → Except TokenizerError String
  vocabularySize : Option Nat

end TextVectors
