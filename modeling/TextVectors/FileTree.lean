import TextVectors.Text.Cut

namespace TextVectors

/-! A tree of files, and paths into it.

Paths are texts with `/` between their components.  The tree hangs at the
component `@`; around it there are directories in which nothing else is known.
Looking up a path follows its components one by one: `.` stays, `..` goes to the
parent, and only a directory can be gone through.
-/

inductive FileNode (α : Type) where
  | file (content : α)
  | directory (entries : List (String × FileNode α))

/-- A file tree, given by the entries of its root directory. -/
structure FileTree (α : Type) where
  entries : List (String × FileNode α)

inductive PathFault where
  | missing
  | throughFile
  | nameTooLong
  | embeddedNul
deriving Repr, DecidableEq

def PathFault.message : PathFault → String
  | .missing => "No such file or directory (os error 2)"
  | .throughFile => "Not a directory (os error 20)"
  | .nameTooLong => "File name too long (os error 36)"
  | .embeddedNul => "file name contained an unexpected NUL byte"

namespace FilePath

/-- The texts between the slashes of a path. -/
def pieces (path : String) : List String :=
  (Text.cut (· == '/') path.toList).map String.ofList

def isAbsolute (path : String) : Bool :=
  path.toList.head? == some '/'

/-- The components by which paths are compared: empty pieces do not count, and
`.` counts only in front of a relative path. -/
def components (path : String) : List String :=
  let steps := (pieces path).filter fun piece => piece != "" && piece != "."
  if isAbsolute path then "/" :: steps
  else if (pieces path).head? == some "." then "." :: steps
  else steps

/-- Two paths with the same components name the same place by their text alone. -/
def same (a b : String) : Bool :=
  components a == components b

end FilePath

/-- A place reached while following a path: outside the tree, or inside it with
the nodes passed on the way, innermost first. -/
inductive Place (α : Type) where
  | outside
  | inside (node : FileNode α) (parents : List (FileNode α))

namespace FileTree

def root (tree : FileTree α) : FileNode α :=
  .directory tree.entries

/-- The longest name that a directory can hold, in bytes. -/
def longestName : Nat := 255

/-- The longest path that is looked up at all, in bytes. -/
def longestPath : Nat := 4095

/-- Goes from a place to one of its components. -/
def follow (place : Place α) (piece : String) : Except PathFault (Place α) :=
  match place with
  | .outside =>
      if piece == "" || piece == "." || piece == ".." then .ok .outside
      else if piece.utf8ByteSize > longestName then .error .nameTooLong
      else .error .missing
  | .inside (.file _) _ => .error .throughFile
  | .inside (.directory entries) parents =>
      if piece == "" || piece == "." then .ok place
      else if piece == ".." then
        match parents with
        | [] => .ok .outside
        | parent :: rest => .ok (.inside parent rest)
      else if piece.utf8ByteSize > longestName then .error .nameTooLong
      else
        match entries.find? fun entry => entry.1 == piece with
        | some entry => .ok (.inside entry.2 (.directory entries :: parents))
        | none => .error .missing

/-- The place that a path names. -/
def locate (tree : FileTree α) (path : String) : Except PathFault (Place α) :=
  if path.toList.contains (Char.ofNat 0) then .error .embeddedNul
  else if path.utf8ByteSize > longestPath then .error .nameTooLong
  else
    match FilePath.pieces path with
    | "@" :: rest => rest.foldlM follow (.inside tree.root [])
    | [""] => .error .missing
    | pieces => pieces.foldlM follow .outside

def present (tree : FileTree α) (path : String) : Bool :=
  match tree.locate path with
  | .ok _ => true
  | .error _ => false

/-- The content of the regular file that a path names. -/
def content? (tree : FileTree α) (path : String) : Option α :=
  match tree.locate path with
  | .ok (.inside (.file content) _) => some content
  | _ => none

def isFile (tree : FileTree α) (path : String) : Bool :=
  (tree.content? path).isSome

end FileTree

end TextVectors
