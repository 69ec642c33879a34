import StudioLookup.Text.Basic

set_option autoImplicit false

/-! # Sets and maps of characters

Properties of characters are given by tables of ranges of code points. The tables are written
as texts of hexadecimal numbers, one entry per word: `41-5A` is a range and `5F` a single
character. The module reads the tables and looks characters up in them.
-/

namespace StudioLookup.Unicode

/-- The code point a hexadecimal number stands for; zero if it is no such number. -/
def codePoint (t : Text) : Nat := (Text.number? 16 t).getD 0

/-- The words of a table, between blanks and line ends. -/
def tableWords (t : Text) : List Text :=
  (Text.pieces ' ' (t.map fun c => if c = '\n' then ' ' else c)).filter (!·.isEmpty)

/-! ## Ranges and sets -/

/-- A range of code points, both ends included. -/
structure CodeRange where
  first : Nat
  last : Nat

/-- Reads `first-last`, or one number for a range of one. -/
def CodeRange.ofText (t : Text) : CodeRange :=
  match Text.pieces '-' t with
  | [a, b] => ⟨codePoint a, codePoint b⟩
  | _ => ⟨codePoint t, codePoint t⟩

/-- Whether a character lies in the range. -/
def CodeRange.contains (r : CodeRange) (c : Char) : Bool :=
  r.first ≤ c.toNat && c.toNat ≤ r.last

/-- A set of characters, as a list of ranges. -/
abbrev CodeSet := List CodeRange

/-- Reads a set from the words of a table. -/
def CodeSet.ofText (t : Text) : CodeSet := (tableWords t).map CodeRange.ofText

/-- Whether a character is in the set. -/
def CodeSet.contains (s : CodeSet) (c : Char) : Bool := s.any (·.contains c)

/-! ## Maps -/

/-- A map from characters to numbers, constant on ranges. -/
abbrev CodeMap := List (CodeRange × Nat)

/-- Reads entries `range:value`. -/
def CodeMap.ofText (t : Text) : CodeMap :=
  (tableWords t).filterMap fun entry =>
    match Text.pieces ':' entry with
    | [r, v] => some (CodeRange.ofText r, codePoint v)
    | _ => none

/-- The value of a character, if it has one. -/
def CodeMap.find? (m : CodeMap) (c : Char) : Option Nat :=
  (List.find? (fun e => e.1.contains c) m).map (·.2)

/-- A range whose characters are mapped, every one or every second one, onto the range of the
same shape that starts at `target`. -/
structure CodeShift where
  range : CodeRange
  step : Nat
  target : Nat

/-- Reads an entry `range:target` or `range/2:target`. -/
def CodeShift.ofText (t : Text) : Option CodeShift :=
  match Text.pieces ':' t with
  | [r, v] =>
      match Text.pieces '/' r with
      | [r', s] => some ⟨CodeRange.ofText r', codePoint s, codePoint v⟩
      | _ => some ⟨CodeRange.ofText r, 1, codePoint v⟩
  | _ => none

/-- Reads the words of a table of shifts. -/
def CodeShift.listOfText (t : Text) : List CodeShift :=
  (tableWords t).filterMap CodeShift.ofText

/-- The character a shift maps `c` to, if it moves `c` at all. -/
def CodeShift.image? (s : CodeShift) (c : Char) : Option Char :=
  if s.range.contains c && (c.toNat - s.range.first) % s.step == 0 then
    some (Char.ofNat (s.target + (c.toNat - s.range.first)))
  else none

/-- A character that is mapped to several others. -/
structure CodeExpansion where
  source : Nat
  image : Text

/-- Reads an entry `source:first+second+…`. -/
def CodeExpansion.ofText (t : Text) : Option CodeExpansion :=
  match Text.pieces ':' t with
  | [s, v] => some ⟨codePoint s, (Text.pieces '+' v).map fun x => Char.ofNat (codePoint x)⟩
  | _ => none

/-- Reads the words of a table of expansions. -/
def CodeExpansion.listOfText (t : Text) : List CodeExpansion :=
  (tableWords t).filterMap CodeExpansion.ofText

end StudioLookup.Unicode
