import ScriptStage.Text.Printable

/-!
# Quoted text

A text in double quotes, as error messages show it: quotes, backslashes, line ends and tabs are
escaped by a backslash, and characters without a shape of their own by their number.

## Main definitions

* `ScriptStage.Text.quoted`: a text in quotes.
-/

set_option autoImplicit false

namespace ScriptStage.Text

/-- The escaped form of a character inside double quotes. -/
def quotedChar (c : Char) : List Char :=
  if c = '\x00' then ['\\', '0']
  else if c = '\t' then ['\\', 't']
  else if c = '\r' then ['\\', 'r']
  else if c = '\n' then ['\\', 'n']
  else if c = '"' then ['\\', '"']
  else if c = '\\' then ['\\', '\\']
  else if isShown c then [c]
  else '\\' :: 'u' :: '\x7b' :: Nat.toDigits 16 c.toNat ++ ['\x7d']

/-- A text in double quotes. -/
def quoted (s : String) : String :=
  String.ofList ('"' :: s.toList.flatMap quotedChar ++ ['"'])

end ScriptStage.Text
