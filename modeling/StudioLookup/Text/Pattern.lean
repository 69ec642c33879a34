import StudioLookup.Text.Basic

set_option autoImplicit false

/-! # Patterns

A pattern describes a stretch of text as a sequence of parts: words that stand there
literally, single characters of a class, and gaps of any length made of characters of a
class, some of which are captured.

`Pattern.find?` searches a text for a pattern and yields the captured gaps. The match it takes
is the *leftmost*, and among those that begin at one place the one with the *shortest gaps*,
an earlier gap counting before a later one: each gap first tries to end at once and takes in
one more character only when nothing after it fits.

`Pattern.source` writes a pattern in the usual notation of regular expressions.
-/

namespace StudioLookup

/-- A class of characters. -/
inductive CharClass where
  /-- Every character. -/
  | everything
  /-- Every character but the line feed. -/
  | inLine
  /-- Every character but the digits `0` to `9`. -/
  | noDigit
  /-- Every character but the digits `0` to `9` and the dot. -/
  | noDigitOrDot
  deriving DecidableEq, Repr

namespace CharClass

/-- Whether a character belongs to the class. -/
def contains : CharClass → Char → Bool
  | everything, _ => true
  | inLine, c => c != '\n'
  | noDigit, c => !c.isDigit
  | noDigitOrDot, c => !c.isDigit && c != '.'

/-- The class in the notation of regular expressions. -/
def source : CharClass → Text
  | everything => "[\\s\\S]".toList
  | inLine => ".".toList
  | noDigit => "[^0-9]".toList
  | noDigitOrDot => "[^0-9.]".toList

end CharClass

/-- A part of a pattern. -/
inductive Part where
  /-- The text itself. -/
  | literal (t : Text)
  /-- One character of the class. -/
  | one (k : CharClass)
  /-- Any number of characters of the class, as few as possible. -/
  | gap (k : CharClass)
  /-- A gap that is part of the result. -/
  | capture (k : CharClass)
  deriving DecidableEq, Repr

/-- A sequence of parts. With a boundary, a match begins at the start of the text or with one
character of the boundary. -/
structure Pattern where
  boundary : Option CharClass
  parts : List Part
  deriving DecidableEq, Repr

/-- The shortest stretch of characters of `k` at the beginning of a text after which `next`
succeeds, together with what `next` yields there. -/
def shortestGap {α : Type} (k : CharClass) (next : Text → Option α) :
    Text → Option (Text × α)
  | [] => (next []).map fun a => ([], a)
  | c :: t =>
      match next (c :: t) with
      | some a => some ([], a)
      | none =>
          if k.contains c then (shortestGap k next t).map fun (g, a) => (c :: g, a) else none

/-- Matches the parts at the beginning of a text and yields the captured gaps. -/
def matchParts : List Part → Text → Option (List Text)
  | [], _ => some []
  | .literal l :: ps, t =>
      match l.isPrefixOf? t with
      | some rest => matchParts ps rest
      | none => none
  | .one _ :: _, [] => none
  | .one k :: ps, c :: t => if k.contains c then matchParts ps t else none
  | .gap k :: ps, t => (shortestGap k (matchParts ps) t).map (·.2)
  | .capture k :: ps, t => (shortestGap k (matchParts ps) t).map fun (g, gs) => g :: gs

namespace Pattern

/-- Matches the parts after one character of the boundary. -/
def matchBehind (k : CharClass) (ps : List Part) : Text → Option (List Text)
  | [] => none
  | c :: t => if k.contains c then matchParts ps t else none

/-- Matches a pattern that begins at the beginning of `t`; `atStart` tells whether this is the
start of the whole text, where the boundary may be absent. -/
def matchHere (p : Pattern) (atStart : Bool) (t : Text) : Option (List Text) :=
  match p.boundary with
  | none => matchParts p.parts t
  | some k =>
      if atStart then
        match matchParts p.parts t with
        | some gs => some gs
        | none => matchBehind k p.parts t
      else matchBehind k p.parts t

/-- The captured gaps of the first match in `t`, `atStart` telling whether `t` is the whole
text. -/
def findFrom (p : Pattern) (atStart : Bool) : Text → Option (List Text)
  | [] => p.matchHere atStart []
  | c :: t =>
      match p.matchHere atStart (c :: t) with
      | some gs => some gs
      | none => findFrom p false t

/-- The captured gaps of the leftmost match with the shortest gaps. -/
def find? (p : Pattern) (t : Text) : Option (List Text) := p.findFrom true t

end Pattern

/-! ## The notation of regular expressions -/

/-- A literal character; the dot needs a backslash. -/
def literalSource (t : Text) : Text := t.flatMap fun c => if c = '.' then ['\\', '.'] else [c]

/-- A part in the notation of regular expressions. -/
def Part.source : Part → Text
  | .literal t => literalSource t
  | .one k => k.source
  | .gap k => k.source ++ "*?".toList
  | .capture k => '(' :: k.source ++ "*?)".toList

/-- The parts of a pattern in the notation of regular expressions. -/
def partsSource (ps : List Part) : Text := ps.flatMap Part.source

/-- A boundary in the notation of regular expressions. -/
def boundarySource (k : CharClass) : Text := "(?:^|".toList ++ k.source ++ ")".toList

end StudioLookup
