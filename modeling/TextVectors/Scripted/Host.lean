import TextVectors.Host

namespace TextVectors.Scripted

/-! A small machine to try the library on.

Its directory holds native libraries, models, small tokenizers, and a few files
that are none of these.
-/

/-- The tokens that stand for something else than a piece of text. -/
def specialTokens : List String :=
  ["[PAD]", "[UNK]", "[CLS]", "[SEP]"]

/-- The tokenizer that knows most pieces. -/
def largeTokenizer : WordPiece where
  vocabulary := specialTokens ++
    ["sparse", "dense", "vector", "embed", "##ding", "query", "##s", "a", "b", "c", ".", "!",
     "?", ",", "'", "do", "not", "i", "##m", "un", "##believ", "##able", "token", "##ize", "##r",
     "1", "2", "##3", "é"]
  special := specialTokens
  unknown := "[UNK]"
  inner := "##"
  longestWord := 100
  template := some ⟨"[CLS]", "[SEP]", 0⟩

/-- A tokenizer with short words whose last token has a type of its own. -/
def typedTokenizer : WordPiece where
  vocabulary := largeTokenizer.vocabulary.take 10
  special := specialTokens
  unknown := "[UNK]"
  inner := "##"
  longestWord := 8
  template := some ⟨"[CLS]", "[SEP]", 1⟩

/-- A tokenizer of plain words, which has no token for unknown ones. -/
def plainTokenizer (vocabulary : List String) : WordPiece where
  vocabulary := vocabulary
  special := []
  unknown := "[UNK]"
  inner := "##"
  longestWord := 100
  template := none

def files : FileTree FileContent where
  entries := [
    ("libonnxruntime.so", .file (.library true)),
    ("libsecond.so", .file (.library true)),
    ("nosymbol.so", .file (.library false)),
    ("garbage.so", .file .other),
    ("model.onnx", .file .other),
    ("other.onnx", .file .other),
    ("empty.onnx", .file .other),
    ("modèle 模型.onnx", .file .other),
    ("tokenizer.json", .file (.tokenizer largeTokenizer)),
    ("typed.json", .file (.tokenizer typedTokenizer)),
    ("nounk.json", .file (.tokenizer (plainTokenizer ["alpha", "beta", "##x"]))),
    ("empty.json", .file (.tokenizer (plainTokenizer []))),
    ("bad.json", .file .other),
    ("dir", .directory [])]

def host (libraryVariable : Option String) (skipVersionCheck : Bool) : Host :=
  { files, libraryVariable, skipVersionCheck }

end TextVectors.Scripted
