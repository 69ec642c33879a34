import StudioLookup.Text.Utf8

set_option autoImplicit false

/-! # Percent encoding

In the parts of a URL, characters that would be taken for punctuation or that are not ASCII
are written as the bytes of their UTF-8 encoding, each as a percent sign and two hexadecimal
digits. Which characters of ASCII are encoded depends on the part.
-/

namespace StudioLookup.Url

/-- A byte as a percent sign and two hexadecimal digits. -/
def percentByte (b : UInt8) : Text :=
  ['%', (Nat.digitChar (b.toNat / 16)).toUpper, (Nat.digitChar (b.toNat % 16)).toUpper]

/-- Whether a character is encoded in every part: it is a control or not ASCII. -/
def isAlwaysEncoded (c : Char) : Bool := c.toNat < 0x20 || 0x7F ≤ c.toNat

/-- Encodes a text; besides what is encoded everywhere, the characters of `special` are. -/
def percentEncode (special : Text) (t : Text) : Text :=
  t.flatMap fun c =>
    if isAlwaysEncoded c || special.contains c then
      (String.utf8EncodeChar c).flatMap percentByte
    else [c]

/-- The bytes of a text in which percent sequences stand for bytes. A percent sign that begins
no such sequence stands for itself. -/
def percentDecode : Text → List UInt8
  | [] => []
  | '%' :: a :: b :: t =>
      match Text.digitValue? 16 a, Text.digitValue? 16 b with
      | some x, some y => UInt8.ofNat (x * 16 + y) :: percentDecode t
      | _, _ => 0x25 :: percentDecode (a :: b :: t)
  | c :: t => String.utf8EncodeChar c ++ percentDecode t

/-! ## What is encoded in each part -/

/-- In a fragment. -/
def fragmentSpecial : Text := " \x22<>\x60".toList

/-- In a path. -/
def pathSpecial : Text := fragmentSpecial ++ "#?\x7b\x7d".toList

/-- In a user name or password. -/
def credentialSpecial : Text := pathSpecial ++ "/:;=@[\\]^|".toList

/-- In the query of a URL whose scheme has no rules of its own. -/
def plainQuerySpecial : Text := " \x22#<>".toList

/-- In the query of a URL of one of the schemes of the web. -/
def webQuerySpecial : Text := plainQuerySpecial ++ ['\x27']

end StudioLookup.Url
