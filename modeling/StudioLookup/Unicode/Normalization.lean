import StudioLookup.Unicode.CombiningClass
import StudioLookup.Unicode.Composition

set_option autoImplicit false

/-! # Normalization form C

Characters that are composed of others are taken apart, the marks behind a letter are put in
order of their combining class, and what can be composed is composed again. Two spellings of
the same letters and marks become one.

The tables hold no character whose decomposition is never recomposed; such characters do not
occur in a domain name once it is mapped.
-/

namespace StudioLookup.Unicode

/-! ## Hangul syllables

A syllable is composed of a leading consonant, a vowel and possibly a trailing consonant, and
its code point is computed from theirs. -/

def syllableBase : Nat := 0xAC00
def leadingBase : Nat := 0x1100
def vowelBase : Nat := 0x1161
def trailingBase : Nat := 0x11A7
def leadingCount : Nat := 19
def vowelCount : Nat := 21
def trailingCount : Nat := 28

/-- The letters of a syllable. -/
def hangulParts? (n : Nat) : Option (List Nat) :=
  let s := n - syllableBase
  if syllableBase ≤ n ∧ s < leadingCount * vowelCount * trailingCount then
    let leading := leadingBase + s / (vowelCount * trailingCount)
    let vowel := vowelBase + s % (vowelCount * trailingCount) / trailingCount
    let trailing := s % trailingCount
    some ([leading, vowel] ++ if trailing = 0 then [] else [trailingBase + trailing])
  else none

/-- The syllable of a consonant and a vowel, or of a syllable without trailing consonant and a
consonant. -/
def hangulWhole? (a b : Nat) : Option Nat :=
  let s := a - syllableBase
  if leadingBase ≤ a ∧ a < leadingBase + leadingCount ∧ vowelBase ≤ b ∧
      b < vowelBase + vowelCount then
    some (syllableBase +
      ((a - leadingBase) * vowelCount + (b - vowelBase)) * trailingCount)
  else if syllableBase ≤ a ∧ s < leadingCount * vowelCount * trailingCount ∧
      s % trailingCount = 0 ∧ trailingBase < b ∧ b < trailingBase + trailingCount then
    some (a + (b - trailingBase))
  else none

/-! ## Taking apart -/

/-- A code point other than a syllable as those it is composed of, by a table of composites.
The first part of a composite has a smaller code point and may be a composite itself. -/
def partsIn (table : List Composite) (n : Nat) : List Nat :=
  match table.find? (·.whole == n) with
  | none => [n]
  | some x => if x.first < n then partsIn table x.first ++ [x.second] else [n]
termination_by n
decreasing_by assumption

/-- A code point as those it is composed of. -/
def decomposeCode (n : Nat) : List Nat := (hangulParts? n).getD (partsIn composites n)

/-- Puts a mark behind the marks of a smaller class that follow it. -/
def insertMark (c : Char) : Text → Text
  | [] => [c]
  | d :: t =>
      if combiningClass d != 0 && combiningClass d < combiningClass c then d :: insertMark c t
      else c :: d :: t

/-- A text with all its characters taken apart and the marks in order. -/
def decompose (t : Text) : Text :=
  (t.flatMap fun c => (decomposeCode c.toNat).map Char.ofNat).foldr insertMark []

/-! ## Composing -/

/-- The character composed of two others. -/
def composite? (a b : Char) : Option Char :=
  match hangulWhole? a.toNat b.toNat with
  | some n => some (Char.ofNat n)
  | none =>
      (composites.find? fun x => x.first == a.toNat && x.second == b.toNat).map
        fun x => Char.ofNat x.whole

/-- Composes the characters of a text with the letter before them. The letter is given with
the marks that stand between and did not compose with it. A mark reaches the letter past
marks of a smaller class only. -/
def composeAfter (letter : Char) (marks : Text) : Text → Text
  | [] => letter :: marks
  | c :: t =>
      let reaches :=
        match marks.getLast? with
        | none => true
        | some m => combiningClass m < combiningClass c
      match if reaches then composite? letter c else none with
      | some whole => composeAfter whole marks t
      | none =>
          if combiningClass c = 0 then letter :: marks ++ composeAfter c [] t
          else composeAfter letter (marks ++ [c]) t

/-- Composes the characters of a text. Marks before the first letter stay as they are. -/
def compose : Text → Text
  | [] => []
  | c :: t => if combiningClass c = 0 then composeAfter c [] t else c :: compose t

/-- The text in normalization form C. -/
def normalize (t : Text) : Text := compose (decompose t)

end StudioLookup.Unicode
