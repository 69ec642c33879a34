import StudioLookup.Text.Basic

set_option autoImplicit false

/-! # Numbered hosts of version 4

A host whose last part is a number is an address of four bytes. It may be written in fewer
than four parts, in which case the last part fills the remaining bytes, and each part may be
decimal, octal with a leading `0`, or hexadecimal with a leading `0x`.
-/

namespace StudioLookup.Url

/-- The number a part of an address stands for, if it is one. -/
def ipv4Number? (part : Text) : Option Nat :=
  match part with
  | [] => none
  | '0' :: 'x' :: digits => Text.number? 16 digits
  | '0' :: 'X' :: digits => Text.number? 16 digits
  | '0' :: d :: digits => Text.number? 8 (d :: digits)
  | _ => Text.number? 10 part

/-- The parts of a name between dots, without the empty part after a dot at the end. -/
def dottedParts (name : Text) : List Text :=
  let parts := Text.pieces '.' name
  if 1 < parts.length && parts.getLast? == some [] then parts.dropLast else parts

/-- Whether a name ends in a number, so that it has to be an address. -/
def endsInNumber (name : Text) : Bool :=
  match (dottedParts name).getLast? with
  | none => false
  | some last => (!last.isEmpty && last.all Char.isDigit) || (ipv4Number? last).isSome

/-- The value of the leading bytes of an address, the first one counting the most. -/
def leadingBytes : List Nat → Nat → Nat
  | [], _ => 0
  | b :: bs, weight => b * weight + leadingBytes bs (weight / 256)

/-- The address a name stands for. -/
def ipv4? (name : Text) : Option Nat :=
  let parts := dottedParts name
  if 4 < parts.length then none
  else
    match parts.mapM ipv4Number? with
    | none => none
    | some numbers =>
        match numbers.getLast? with
        | none => none
        | some last =>
            let leading := numbers.dropLast
            if last < Nat.pow 256 (4 - leading.length) && leading.all (· < 256) then
              some (leadingBytes leading (Nat.pow 256 3) + last)
            else none

/-- An address as four decimal numbers. -/
def ipv4Text (address : Nat) : Text :=
  Text.join ['.'] <|
    [Nat.pow 256 3, Nat.pow 256 2, 256, 1].map fun weight =>
      Text.decimal (address / weight % 256)

end StudioLookup.Url
