import StudioLookup.Unicode.Directionality
import StudioLookup.Unicode.DomainMapping
import StudioLookup.Unicode.JoiningType
import StudioLookup.Unicode.Mark
import StudioLookup.Unicode.Normalization
import StudioLookup.Unicode.Punycode

set_option autoImplicit false

/-! # Domain names

A domain name may be written with characters of any script. Its characters are mapped to one
of their forms and normalized; then each label between dots is checked, and a label outside
ASCII is written in Punycode behind `xn--`. A label that already is in Punycode is read and has
to pass the same checks.

A label is refused if it has a character that is not allowed, begins with a combining mark, has
an invisible joiner where it joins nothing, or mixes directions of writing.
-/

namespace StudioLookup.Url

open Unicode

/-! ## Mapping -/

/-- What becomes of a character; nothing if no domain name may contain it. -/
def mapDomainChar? (c : Char) : Option Text :=
  if disallowed.contains c then none
  else if ignored.contains c then some []
  else
    match shifts.findSome? (·.image? c) with
    | some d => some [d]
    | none =>
        match expansions.find? (·.source == c.toNat) with
        | some e => some e.image
        | none => some [c]

/-- A name with its characters mapped and normalized. -/
def mapDomain? (t : Text) : Option Text :=
  (t.mapM mapDomainChar?).map fun images => normalize images.flatten

/-! ## Labels -/

/-- What a label in Punycode begins with. -/
def punycodeMark : Text := "xn--".toList

/-- The greatest length of a label that is read from Punycode or written in it. -/
def longestRead : Nat := 2000
def longestWritten : Nat := 1000

/-- The characters of ASCII that no domain name may contain. -/
def isForbidden (c : Char) : Bool :=
  c.toNat ≤ 0x20 || c.toNat = 0x7F || "%#/:<>?@[\\]^|".toList.contains c

/-- The characters that join the letters around them, or keep them from joining. -/
def nonJoiner : Char := Char.ofNat 0x200C
def joiner : Char := Char.ofNat 0x200D

/-- Whether the letters on both sides of a non-joiner would join without it. The text before
it is given in reverse. -/
def separatesJoining (before after : Text) : Bool :=
  match before.dropWhile transparent.contains, after.dropWhile transparent.contains with
  | a :: _, b :: _ =>
      (joinsLeft.contains a || joinsBoth.contains a) &&
        (joinsRight.contains b || joinsBoth.contains b)
  | _, _ => false

/-- Whether each joiner of a label stands behind a virama, or is a non-joiner between letters
that would join. The part before `t` is given in reverse. -/
def joinersFit (before : Text) : Text → Bool
  | [] => true
  | c :: t =>
      (if c = nonJoiner ∨ c = joiner then
        match before with
        | [] => false
        | b :: _ =>
            combiningClass b == viramaClass || (c = nonJoiner && separatesJoining before t)
      else true) && joinersFit (c :: before) t

/-- Whether a label may stand in a domain name: its characters stand for themselves, none is
forbidden, it is normalized, does not begin with a mark, and its joiners fit. -/
def labelFits (label : Text) : Bool :=
  label.all (fun c => mapDomainChar? c == some [c] && !isForbidden c) &&
    normalize label == label &&
    (match label with
      | [] => true
      | c :: _ => !mark.contains c) &&
    joinersFit [] label

/-- A label in its own script. A label in Punycode has to stand for characters that are not
all in ASCII. -/
def readLabel? (label : Text) : Option Text :=
  match punycodeMark.isPrefixOf? label with
  | none => some label
  | some t =>
      if longestRead < t.length then none
      else (Punycode.decode? t).filter fun u => u.any (128 ≤ ·.toNat)

/-- A label in ASCII. -/
def writeLabel? (label : Text) : Option Text :=
  if label.all (·.toNat < 128) then some label
  else if longestWritten < label.length then none
  else some (punycodeMark ++ Punycode.encode label)

/-! ## Directions of writing -/

/-- Whether a character makes a name one that is written from right to left. -/
def isRightToLeft (c : Char) : Bool :=
  rightToLeft.contains c || arabicLetter.contains c || arabicNumber.contains c

/-- Whether a character may stand in a label of either direction. -/
def isNeutral (c : Char) : Bool :=
  europeanSeparator.contains c || commonSeparator.contains c || europeanTerminator.contains c ||
    otherNeutral.contains c || boundaryNeutral.contains c || nonspacingMark.contains c

/-- Whether a character is written from left to right. -/
def isLeftToRight (c : Char) : Bool :=
  !isRightToLeft c && !isNeutral c && !europeanNumber.contains c

/-- The last character of a label that is not a nonspacing mark. -/
def lastBase? (label : Text) : Option Char :=
  (label.reverse.dropWhile nonspacingMark.contains).head?

/-- Whether a label keeps to the direction of its first character. -/
def directionFits (label : Text) : Bool :=
  match label, lastBase? label with
  | c :: _, some z =>
      if rightToLeft.contains c || arabicLetter.contains c then
        label.all (fun x => !isLeftToRight x) &&
          (isRightToLeft z || europeanNumber.contains z) &&
          !(label.any europeanNumber.contains && label.any arabicNumber.contains)
      else if isLeftToRight c then
        label.all (fun x => !isRightToLeft x) &&
          (isLeftToRight z || europeanNumber.contains z)
      else false
  | [], _ => true
  | _ :: _, none => false

/-! ## Names -/

/-- A domain name in ASCII; nothing if it is none. -/
def asciiDomain? (t : Text) : Option Text :=
  match mapDomain? t with
  | none => none
  | some mapped =>
      match (Text.pieces '.' mapped).mapM readLabel? with
      | none => none
      | some labels =>
          if labels.all labelFits &&
              (!labels.any (·.any isRightToLeft) || labels.all directionFits) then
            (labels.mapM writeLabel?).map (Text.join ['.'])
          else none

end StudioLookup.Url
