import Gridwise.Text.Invisible

/-!
# Quoted text

Names are shown between double quotes in lists and records. The quote itself and the
backslash are escaped, line ends, tabs and NUL have short escapes, and every other
character that does not show is written by its code point; all else stands for itself.
-/

namespace Gridwise

namespace Quoted

/-- The code point of a character, in hexadecimal between braces. -/
def codePoint (c : Char) : List Char :=
  "\\u\x7b".toList ++ Nat.toDigits 16 c.toNat ++ "\x7d".toList

/-- What a character contributes between the quotes. -/
def escape (c : Char) : List Char :=
  if c = '"' then ['\\', '"']
  else if c = '\\' then ['\\', '\\']
  else if c = '\n' then ['\\', 'n']
  else if c = '\r' then ['\\', 'r']
  else if c = '\t' then ['\\', 't']
  else if c = '\x00' then ['\\', '0']
  else if isInvisible c then codePoint c
  else [c]

/-- A text between quotes. -/
def text (s : String) : String :=
  "\"" ++ String.ofList (s.toList.flatMap escape) ++ "\""

/-- A list in brackets, its items already in their shown form. -/
def bracketed (items : List String) : String :=
  "[" ++ ", ".intercalate items ++ "]"

/-- A list of quoted texts. -/
def list (items : List String) : String := bracketed (items.map text)

end Quoted

end Gridwise
