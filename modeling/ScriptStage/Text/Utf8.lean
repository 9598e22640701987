/-!
# Decoding UTF-8

Bytes that are no text are refused with the place of the first malformed sequence and, unless the
bytes just end too early, the number of bytes that cannot begin a character.

## Main definitions

* `ScriptStage.Text.decode`: the characters that bytes encode.
* `ScriptStage.Text.Malformed`: where and how bytes are malformed.
* `ScriptStage.Text.encode`, `byteLength`: the bytes of characters, and how many there are.
-/

set_option autoImplicit false

namespace ScriptStage.Text

/-- Where and how bytes are malformed. -/
structure Malformed where
  /-- The number of bytes before the malformed sequence. -/
  index : Nat
  /-- The number of its bytes; nothing if the bytes end inside it. -/
  length : Option Nat
  deriving DecidableEq, Repr

/-- The wording of a malformed sequence. -/
def Malformed.message (m : Malformed) : String :=
  match m.length with
  | some n =>
    "invalid utf-8 sequence of " ++ toString n ++ " bytes from index " ++ toString m.index
  | none => "incomplete utf-8 byte sequence from index " ++ toString m.index

/-- The bytes that may follow a first byte, for each further place. -/
def followRanges (first : UInt8) : Option (List (UInt8 × UInt8)) :=
  if first < 0x80 then some []
  else if 0xC2 ≤ first ∧ first ≤ 0xDF then some [(0x80, 0xBF)]
  else if first = 0xE0 then some [(0xA0, 0xBF), (0x80, 0xBF)]
  else if first = 0xED then some [(0x80, 0x9F), (0x80, 0xBF)]
  else if 0xE1 ≤ first ∧ first ≤ 0xEF then some [(0x80, 0xBF), (0x80, 0xBF)]
  else if first = 0xF0 then some [(0x90, 0xBF), (0x80, 0xBF), (0x80, 0xBF)]
  else if 0xF1 ≤ first ∧ first ≤ 0xF3 then some [(0x80, 0xBF), (0x80, 0xBF), (0x80, 0xBF)]
  else if first = 0xF4 then some [(0x80, 0x8F), (0x80, 0xBF), (0x80, 0xBF)]
  else none

/-- The bits that a first byte contributes to its character. -/
def firstBits (first : UInt8) : Nat :=
  if first < 0x80 then first.toNat
  else if first < 0xE0 then first.toNat % 32
  else if first < 0xF0 then first.toNat % 16
  else first.toNat % 8

/-- Reads the further bytes of a character into its number. An error holds the number of bytes
read so far, or nothing at the end of the bytes. -/
def readFollowing : List (UInt8 × UInt8) → Nat → Nat → List UInt8 →
    Except (Option Nat) (Nat × List UInt8)
  | [], _, n, bs => .ok (n, bs)
  | _ :: _, _, _, [] => .error none
  | (low, high) :: ranges, count, n, b :: bs =>
    if low ≤ b ∧ b ≤ high then readFollowing ranges (count + 1) (n * 64 + b.toNat % 64) bs
    else .error (some count)

/-- The characters that bytes encode, from the given index on. The fuel is the number of bytes. -/
def decodeFrom : Nat → Nat → List UInt8 → Except Malformed (List Char)
  | _, _, [] => .ok []
  | 0, index, _ :: _ => .error ⟨index, none⟩
  | fuel + 1, index, b :: bs =>
    match followRanges b with
    | none => .error ⟨index, some 1⟩
    | some ranges =>
      match readFollowing ranges 1 (firstBits b) bs with
      | .error length => .error ⟨index, length⟩
      | .ok (n, rest) =>
        (decodeFrom fuel (index + 1 + ranges.length) rest).map (Char.ofNat n :: ·)

/-- The characters that bytes encode. -/
def decode (bs : List UInt8) : Except Malformed (List Char) :=
  decodeFrom bs.length 0 bs

/-- The bytes of characters. -/
def encode (t : List Char) : List UInt8 :=
  t.flatMap String.utf8EncodeChar

/-- The number of bytes of a text. -/
def byteLength (t : List Char) : Nat :=
  t.foldr (fun c n => c.utf8Size + n) 0

end ScriptStage.Text
