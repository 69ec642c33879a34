import StudioLookup.Unicode.GraphemeExtend
import StudioLookup.Unicode.Unprintable

set_option autoImplicit false

/-! # Quoted texts

A text in quotation marks, in which every character that would not be seen for what it is has
an escape: the quotation mark and the backslash themselves, line ends and tabs, characters
without a glyph, and characters that attach to the one before them. The apostrophe needs no
escape.
-/

namespace StudioLookup.Text

/-- The escape by code point, for characters without one of their own. -/
def codeEscape (c : Char) : Text :=
  "\\u\x7b".toList ++ Nat.toDigits 16 c.toNat ++ "\x7d".toList

/-- Whether a character is written by its code point: it shows no glyph, or it would attach
to what stands before it. -/
def needsCode (c : Char) : Bool :=
  Unicode.graphemeExtend.contains c || Unicode.unprintable.contains c

/-- A character as it stands between quotation marks. -/
def quotedChar (c : Char) : Text :=
  if c = '\x00' then "\\0".toList
  else if c = '\t' then "\\t".toList
  else if c = '\r' then "\\r".toList
  else if c = '\n' then "\\n".toList
  else if c = '\x22' then "\\\x22".toList
  else if c = '\\' then "\\\\".toList
  else if needsCode c then codeEscape c
  else [c]

/-- A text in quotation marks. -/
def quoted (t : Text) : Text := '\x22' :: t.flatMap quotedChar ++ ['\x22']

end StudioLookup.Text
