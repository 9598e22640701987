import ScriptStage.Text.Utf8

/-!
# Paths

A path consists of bytes, which need not be text. Its components are divided by slashes. Empty
components and `.` name nothing; `..` goes up.

## Main definitions

* `ScriptStage.Files.Path`: paths. A string stands for the path that is its text.
* `ScriptStage.Files.split`: the bytes between the slashes of a path.
* `ScriptStage.Files.parts`: the components that name something.
* `ScriptStage.Files.fileName?`: the name of the file that a path denotes.
* `ScriptStage.Files.text?`: the text of a name, if it is one.
* `ScriptStage.Files.suffix?`: the end of a name from its last dot on.
-/

set_option autoImplicit false

namespace ScriptStage.Files

/-- A path. -/
structure Path where
  /-- Its bytes. -/
  bytes : List UInt8
  deriving DecidableEq, Repr

instance : Coe String Path :=
  ⟨fun s => ⟨Text.encode s.toList⟩⟩

/-- The byte that divides components. -/
def slash : UInt8 := 0x2F

/-- The byte that begins suffixes. -/
def dot : UInt8 := 0x2E

/-- The greatest length of a component in bytes. -/
def componentLimit : Nat := 255

/-- The bytes between the slashes. -/
def split : List UInt8 → List (List UInt8)
  | [] => [[]]
  | b :: rest =>
    if b = slash then [] :: split rest
    else
      match split rest with
      | [] => [[b]]
      | part :: more => (b :: part) :: more

/-- A component that names nothing: an empty one or a single dot. -/
def isVoid (part : List UInt8) : Bool :=
  part = [] || part = [dot]

/-- The component that goes up. -/
def isParent (part : List UInt8) : Bool :=
  part = [dot, dot]

/-- The components that name something, or go up. -/
def parts (path : Path) : List (List UInt8) :=
  (split path.bytes).filter fun p => !isVoid p

/-- The name of the file that a path denotes: its last component, unless that goes up. -/
def fileName? (path : Path) : Option (List UInt8) :=
  match (parts path).getLast? with
  | none => none
  | some p => if isParent p then none else some p

/-- The text of a name. A name that is not in UTF-8 has none. -/
def text? (name : List UInt8) : Option (List Char) :=
  (String.fromUTF8? name.toByteArray).map String.toList

/-- The end of a name from its last dot on. -/
def suffix? : List Char → Option (List Char)
  | [] => none
  | c :: rest =>
    match suffix? rest with
    | some s => some s
    | none => if c = '.' then some (c :: rest) else none

end ScriptStage.Files
