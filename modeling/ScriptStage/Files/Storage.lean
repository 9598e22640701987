import ScriptStage.Files.Path

/-!
# Files that are read

What a program finds at a path is not up to it: a file, a directory, or a reason why there is
neither. Nothing is said about how paths hang together. A tree of files is one way to find files: a
path is followed from the working directory, and what lies outside of it is empty.

## Main definitions

* `ScriptStage.Files.FileError`: why a path cannot be used; `FileError.message` is its text.
* `ScriptStage.Files.Found`: what is at a path.
* `ScriptStage.Files.Storage`: all that is found; `Storage.readText` is the text of a file.
* `ScriptStage.Files.System`: the tree of files below the working directory.
* `ScriptStage.Files.System.storage`: what is found in the tree.
-/

set_option autoImplicit false

namespace ScriptStage.Files

/-! ## What is found -/

/-- Why a path cannot be used. -/
inductive FileError where
  /-- Nothing has this path. -/
  | notFound
  /-- The file is no program. -/
  | permissionDenied
  /-- A file is used as a directory. -/
  | notADirectory
  /-- A directory is read. -/
  | isADirectory
  /-- A component or the path is too long. -/
  | nameTooLong
  /-- The path has the byte zero. -/
  | nulInName
  /-- The content is not text in UTF-8. -/
  | notText
  /-- Any other reason, with its wording. -/
  | other (text : String)
  deriving DecidableEq, Repr

/-- The wording of a file error. -/
def FileError.message : FileError → String
  | notFound => "No such file or directory (os error 2)"
  | permissionDenied => "Permission denied (os error 13)"
  | notADirectory => "Not a directory (os error 20)"
  | isADirectory => "Is a directory (os error 21)"
  | nameTooLong => "File name too long (os error 36)"
  | nulInName => "file name contained an unexpected NUL byte"
  | notText => "stream did not contain valid UTF-8"
  | other text => text

/-- What is at a path. -/
inductive Found where
  /-- A file with its content. -/
  | file (content : ByteArray)
  /-- A directory. -/
  | directory

/-- The files that can be read. -/
structure Storage where
  /-- What is found at a path. -/
  lookup : Path → Except FileError Found

/-- No files at all. -/
def Storage.empty : Storage where
  lookup := fun _ => .error .notFound

/-- The text of the file with a path. -/
def Storage.readText (fs : Storage) (path : Path) : Except FileError String :=
  match fs.lookup path with
  | .error e => .error e
  | .ok .directory => .error .isADirectory
  | .ok (.file content) =>
    match String.fromUTF8? content with
    | some text => .ok text
    | none => .error .notText

/-! ## Trees -/

/-- A file or a directory. -/
inductive Node where
  /-- A file with its content. -/
  | file (content : ByteArray)
  /-- A directory with its entries. -/
  | dir (entries : List (List UInt8 × Node))

/-- What a node is to a reader. -/
def Node.found : Node → Found
  | file content => .file content
  | dir _ => .directory

/-- The entry of a directory with a name. -/
def valueAt? (name : List UInt8) : List (List UInt8 × Node) → Option Node
  | [] => none
  | (n, node) :: rest => if n = name then some node else valueAt? name rest

/-- The length in bytes at which a path is too long. -/
def pathLimit : Nat := 4096

/-- The files below the working directory. -/
structure System where
  /-- The entries of the working directory. -/
  entries : List (List UInt8 × Node)

namespace System

/-- Follows components from a node. The list holds the directories above the node, nearest
first; above the outermost one there are only empty ones. -/
def follow : List Node → Node → List (List UInt8) → Except FileError Node
  | _, node, [] => .ok node
  | above, node, part :: more =>
    match node with
    | .file _ => .error .notADirectory
    | .dir entries =>
      if isVoid part then follow above node more
      else if isParent part then
        match above with
        | [] => follow [] (.dir []) more
        | up :: above => follow above up more
      else if componentLimit < part.length then .error .nameTooLong
      else
        match valueAt? part entries with
        | some inner => follow (node :: above) inner more
        | none => .error .notFound

/-- The node that a path denotes. -/
def lookup (fs : System) (path : Path) : Except FileError Node :=
  if path.bytes.contains 0 then .error .nulInName
  else if path.bytes.isEmpty then .error .notFound
  else if pathLimit ≤ path.bytes.length then .error .nameTooLong
  else
    let start : Node := if path.bytes.head? = some slash then .dir [] else .dir fs.entries
    follow [] start (split path.bytes)

/-- What is found in the tree. -/
def storage (fs : System) : Storage where
  lookup := fun path => (fs.lookup path).map Node.found

instance : Coe System Storage :=
  ⟨storage⟩

/-- Puts a node at a place below a directory, with the directories above it. A file in the way
stays. -/
def putAt (node : Node) : List (List UInt8) → List (List UInt8 × Node) → List (List UInt8 × Node)
  | [], entries => entries
  | [name], entries => entries.filter (fun e => e.1 ≠ name) ++ [(name, node)]
  | name :: more, entries =>
    match valueAt? name entries with
    | some (.file _) => entries
    | some (.dir inner) =>
      entries.filter (fun e => e.1 ≠ name) ++ [(name, .dir (putAt node more inner))]
    | none => entries ++ [(name, .dir (putAt node more []))]

/-- The system with one more node. A directory that is there already stays. -/
def insert (fs : System) (path : Path) (node : Node) : System :=
  match node, fs.lookup path with
  | .dir _, .ok (.dir _) => fs
  | _, _ => ⟨putAt node (parts path) fs.entries⟩

/-- The system without files. -/
def empty : System := ⟨[]⟩

end System

end ScriptStage.Files
