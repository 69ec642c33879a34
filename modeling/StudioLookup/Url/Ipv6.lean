import StudioLookup.Text.Basic

set_option autoImplicit false

/-! # Numbered hosts of version 6

An address of eight groups of sixteen bits, written in hexadecimal between colons. Two colons
stand for a run of zero groups, once in an address, and the last two groups may be written as
four decimal numbers between dots. An address is written with the two colons in place of its
longest run of at least two zero groups, the first one if there are several.
-/

namespace StudioLookup.Url

/-! ## Reading -/

/-- A group: one to four hexadecimal digits. -/
def ipv6Group? (t : Text) : Option Nat :=
  if t.isEmpty || 4 < t.length then none else Text.number? 16 t

/-- A decimal number of up to 255 without leading zeros. -/
def decimalByte? : Text → Option Nat
  | [] => none
  | '0' :: _ :: _ => none
  | t => (Text.number? 10 t).filter (· < 256)

/-- Two groups written as four decimal numbers between dots. -/
def dottedGroups? (t : Text) : Option (List Nat) :=
  match (Text.pieces '.' t).mapM decimalByte? with
  | some [a, b, c, d] => some [a * 256 + b, c * 256 + d]
  | _ => none

/-- The groups of some parts, the last of which may be written with dots. -/
def ipv6Groups? : List Text → Option (List Nat)
  | [] => some []
  | [t] => if t.contains '.' then dottedGroups? t else (ipv6Group? t).map ([·])
  | t :: u :: us =>
      match ipv6Group? t, ipv6Groups? (u :: us) with
      | some g, some gs => some (g :: gs)
      | _, _ => none

/-- The groups of a text without two colons in a row; none for the empty text. -/
def colonGroups? (t : Text) : Option (List Nat) :=
  if t.isEmpty then some [] else ipv6Groups? (Text.pieces ':' t)

/-- The eight groups of an address. -/
def ipv6? (t : Text) : Option (List Nat) :=
  match Text.splitAt? [':', ':'] t with
  | none => (ipv6Groups? (Text.pieces ':' t)).filter (·.length == 8)
  | some (before, after) =>
      if before.contains '.' then none
      else
        match colonGroups? before, colonGroups? after with
        | some gs, some hs =>
            if gs.length + hs.length < 8 then
              some (gs ++ List.replicate (8 - gs.length - hs.length) 0 ++ hs)
            else none
        | _, _ => none

/-! ## Writing -/

/-- The number of zero groups at the beginning. -/
def zeroRun (gs : List Nat) : Nat := (gs.takeWhile (· == 0)).length

/-- The place and length of the longest run of zero groups, the first one if there are
several. The groups begin at place `i`. -/
def longestZeroRun : Nat → List Nat → Nat × Nat
  | i, [] => (i, 0)
  | i, g :: gs =>
      let here := zeroRun (g :: gs)
      let later := longestZeroRun (i + 1) gs
      if later.2 ≤ here then (i, here) else later

/-- Groups in hexadecimal between colons. -/
def groupsText (gs : List Nat) : Text := Text.join [':'] (gs.map (Nat.toDigits 16))

/-- An address in its shortest form. -/
def ipv6Text (gs : List Nat) : Text :=
  let (start, length) := longestZeroRun 0 gs
  if length < 2 then groupsText gs
  else groupsText (gs.take start) ++ "::".toList ++ groupsText (gs.drop (start + length))

end StudioLookup.Url
