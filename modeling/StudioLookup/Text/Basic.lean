set_option autoImplicit false

/-! # Texts

A text is a list of characters. All the work of this library on texts is cutting, searching
and joining, and it is done on the list itself, so that the laws of lists apply to it.

The module defines the three operations the rest is written in: cutting a text at a
character (`Text.pieces`), finding the first place where another text stands
(`Text.splitAt?`), and replacing all places (`Text.replaceAll`), and the reading and writing of
numbers.
-/

namespace StudioLookup

/-- A text, as the list of its characters. -/
abbrev Text := List Char

namespace Text

/-! ## Cutting and joining -/

/-- The pieces of a text between the occurrences of a separator. There is one piece more than
there are separators, so the empty text has one empty piece. -/
def pieces (sep : Char) : Text → List Text
  | [] => [[]]
  | c :: t =>
      if c = sep then [] :: pieces sep t
      else
        match pieces sep t with
        | [] => [[c]]
        | p :: ps => (c :: p) :: ps

/-- The texts of a list with a separator between each two neighbours. -/
def join (sep : Text) : List Text → Text
  | [] => []
  | [t] => t
  | t :: u :: us => t ++ sep ++ join sep (u :: us)

theorem pieces_ne_nil (sep : Char) (t : Text) : pieces sep t ≠ [] := by
  cases t with
  | nil => simp [pieces]
  | cons c t =>
      simp only [pieces]
      split
      · simp
      · split <;> simp

/-- Cutting loses nothing: the pieces joined by the separator are the text. -/
theorem join_pieces (sep : Char) (t : Text) : join [sep] (pieces sep t) = t := by
  induction t with
  | nil => rfl
  | cons c t ih =>
      cases hp : pieces sep t with
      | nil => exact absurd hp (pieces_ne_nil sep t)
      | cons p ps =>
          rw [hp] at ih
          by_cases hc : c = sep
          · simp [pieces, hc, hp, join, ih]
          · cases ps with
            | nil => simp_all [pieces, join]
            | cons q qs => simp_all [pieces, join]

/-! ## Searching -/

/-- The parts of a text before and after the first occurrence of `pat`, if there is one. -/
def splitAt? (pat : Text) : Text → Option (Text × Text)
  | [] => if pat.isEmpty then some ([], []) else none
  | c :: t =>
      match pat.isPrefixOf? (c :: t) with
      | some rest => some ([], rest)
      | none => (splitAt? pat t).map fun (before, after) => (c :: before, after)

/-- Whether `pat` occurs in a text. -/
def occursIn (pat t : Text) : Bool := (splitAt? pat t).isSome

/-- Replaces the occurrences of `pat` by `new`, the first `skip` characters being dropped
first. -/
def replaceFrom (pat new : Text) : Nat → Text → Text
  | _, [] => []
  | skip + 1, _ :: t => replaceFrom pat new skip t
  | 0, c :: t =>
      if pat.isPrefixOf (c :: t) then new ++ replaceFrom pat new (pat.length - 1) t
      else c :: replaceFrom pat new 0 t

/-- Replaces every occurrence of `pat`, found from left to right and without overlap, by
`new`. The text put in is not searched again. The pattern is meant to be nonempty. -/
def replaceAll (pat new t : Text) : Text := replaceFrom pat new 0 t

/-! ## Numbers -/

/-- A number in decimal digits. -/
def decimal (n : Nat) : Text := Nat.toDigits 10 n

/-- The value of a digit in a base of up to sixteen. -/
def digitValue? (base : Nat) (c : Char) : Option Nat :=
  let v? :=
    if '0' ≤ c ∧ c ≤ '9' then some (c.toNat - '0'.toNat)
    else if 'a' ≤ c ∧ c ≤ 'f' then some (c.toNat - 'a'.toNat + 10)
    else if 'A' ≤ c ∧ c ≤ 'F' then some (c.toNat - 'A'.toNat + 10)
    else none
  v?.filter (· < base)

/-- The number whose digits in the given base follow the digits already read. -/
def readDigits? (base : Nat) : Nat → Text → Option Nat
  | read, [] => some read
  | read, c :: t =>
      match digitValue? base c with
      | some d => readDigits? base (read * base + d) t
      | none => none

/-- The number written in the given base; nothing if some character is no digit of it. The
empty text stands for zero. -/
def number? (base : Nat) (t : Text) : Option Nat := readDigits? base 0 t

/-- The letters `A` to `Z` in lower case, and all else as it is. -/
def lowerAscii (t : Text) : Text := t.map Char.toLower

/-- The number of bytes of a text in UTF-8. -/
def byteCount (t : Text) : Nat := t.foldr (fun c n => c.utf8Size + n) 0

end Text

end StudioLookup
