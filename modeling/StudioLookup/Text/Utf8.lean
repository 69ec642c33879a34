import StudioLookup.Text.Basic

set_option autoImplicit false

/-! # UTF-8

Texts as bytes. Writing is the standard encoding. Reading never fails: what is no UTF-8 is
replaced by the replacement character `U+FFFD`, one for each *maximal part* that begins like
the encoding of a character, and one for each byte that begins none. `decode?` refuses such
bytes instead.
-/

namespace StudioLookup.Text

/-- The bytes of a text. -/
def utf8 (t : Text) : List UInt8 := t.flatMap String.utf8EncodeChar

/-- The character put in place of bytes that encode none. -/
def replacement : Char := Char.ofNat 0xFFFD

/-- How the encoding of a character may go on after its first byte: the number of further
bytes, the bounds of the next one, and the bits the first byte contributes. -/
structure Utf8Lead where
  further : Nat
  least : UInt8
  greatest : UInt8
  bits : Nat

/-- The lead a byte is, if it begins the encoding of a character of several bytes. The bounds
of the second byte keep out overlong forms, surrogates and numbers past the last character. -/
def utf8Lead? (b : UInt8) : Option Utf8Lead :=
  if 0xC2 ≤ b ∧ b ≤ 0xDF then some ⟨1, 0x80, 0xBF, b.toNat - 0xC0⟩
  else if b = 0xE0 then some ⟨2, 0xA0, 0xBF, 0⟩
  else if b = 0xED then some ⟨2, 0x80, 0x9F, 0xD⟩
  else if 0xE1 ≤ b ∧ b ≤ 0xEF then some ⟨2, 0x80, 0xBF, b.toNat - 0xE0⟩
  else if b = 0xF0 then some ⟨3, 0x90, 0xBF, 0⟩
  else if 0xF1 ≤ b ∧ b ≤ 0xF3 then some ⟨3, 0x80, 0xBF, b.toNat - 0xF0⟩
  else if b = 0xF4 then some ⟨3, 0x80, 0x8F, 4⟩
  else none

/-- What has been read of the character at hand: nothing, or a lead that waits for further
bytes. -/
abbrev Utf8Pending := Option Utf8Lead

/-- One more byte. Yields the characters completed by it, none standing for a part that
encodes no character, and what is pending after it. -/
def utf8Step (pending : Utf8Pending) (b : UInt8) : List (Option Char) × Utf8Pending :=
  let fresh : List (Option Char) × Utf8Pending :=
    if b < 0x80 then ([some (Char.ofNat b.toNat)], none)
    else
      match utf8Lead? b with
      | some lead => ([], some lead)
      | none => ([none], none)
  match pending with
  | none => fresh
  | some p =>
      if p.least ≤ b ∧ b ≤ p.greatest then
        let bits := p.bits * 64 + (b.toNat - 0x80)
        if p.further ≤ 1 then ([some (Char.ofNat bits)], none)
        else ([], some ⟨p.further - 1, 0x80, 0xBF, bits⟩)
      else (none :: fresh.1, fresh.2)

/-- The characters of some bytes, none standing for each part that encodes no character. -/
def utf8Chars : Utf8Pending → List UInt8 → List (Option Char)
  | none, [] => []
  | some _, [] => [none]
  | pending, b :: bs =>
      let (done, pending') := utf8Step pending b
      done ++ utf8Chars pending' bs

/-- The text of some bytes, with replacement characters for what is no UTF-8. -/
def decodeLossy (bs : List UInt8) : Text :=
  (utf8Chars none bs).map (·.getD replacement)

/-- The text of some bytes, if they are UTF-8 throughout. -/
def decode? (bs : List UInt8) : Option Text := (utf8Chars none bs).mapM id

end StudioLookup.Text
