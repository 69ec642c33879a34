import StudioLookup.Failure

set_option autoImplicit false

/-! # Versions and release names

A version of the Android Gradle Plugin is either *stable*, `MAJOR.MINOR.PATCH`, or a
*prerelease*, `MAJOR.MINOR.PATCH-STAGE`, where the stage is a word followed by a number of two
digits, as in `3.4.0-beta03`. The release archive lists a stable version under its own text
and a prerelease under a name such as `Android Studio 3.4 Beta 3`: the patch is left out, the
stage word is capitalised, and the number loses a leading zero.

`Version.read` reads a version and `Version.releaseName` names the release it belongs to.
-/

namespace StudioLookup

/-- Why a text is no version. -/
inductive VersionFault where
  /-- There is no dash, and the text is not three numbers between dots. -/
  | notNumeric
  /-- There is more than one dash. -/
  | severalDashes
  /-- A character outside ASCII stands in a prerelease. -/
  | notAscii
  /-- What stands before the dash is not three numbers of which the last has one digit. -/
  | badNumbers
  /-- The stage is shorter than a word with two digits. -/
  | shortStage
  /-- The stage does not end in two digits. -/
  | unnumberedStage
  deriving DecidableEq, Repr

/-- What is wrong with the version, in words. -/
def VersionFault.reason : VersionFault → Text
  | .notNumeric =>
      "expected MAJOR.MINOR.PATCH[-STAGE], e.g. '3.4.0' or '3.4.0-beta03'".toList
  | .severalDashes => "expected at most one '-'".toList
  | .notAscii => "non-ASCII characters".toList
  | .badNumbers => "expected MAJOR.MINOR.PATCH with a single-digit patch, e.g. '3.4.0'".toList
  | .shortStage =>
      "stage suffix must be a stage name followed by two digits, e.g. 'beta03'".toList
  | .unnumberedStage => "stage suffix must end with two digits, e.g. 'beta03'".toList

/-- A version, as far as the name of its release depends on it. -/
inductive Version where
  /-- A stable version, by its text. -/
  | stable (text : Text)
  /-- A prerelease: `MAJOR.MINOR`, the capitalised stage word, and the number of the stage
  without leading zero. -/
  | prerelease (series stage number : Text)
  deriving DecidableEq, Repr

namespace Version

/-- Whether a text is a nonempty sequence of the digits `0` to `9`. -/
def isNumeral (t : Text) : Bool := !t.isEmpty && t.all Char.isDigit

/-- Whether a text is three numbers with dots between them. -/
def isNumbered (t : Text) : Bool :=
  (Text.pieces '.' t).length == 3 && (Text.pieces '.' t).all isNumeral

/-- Whether the part after the last dot is one character long. -/
def hasShortPatch (t : Text) : Bool :=
  match (Text.pieces '.' t).getLast? with
  | some patch => patch.length == 1
  | none => false

/-- The stage words, as versions write them and as release names write them. -/
def stageWords : List (Text × Text) :=
  [("alpha".toList, "Alpha".toList), ("beta".toList, "Beta".toList),
    ("canary".toList, "Canary".toList), ("rc".toList, "RC".toList)]

/-- Capitalises the stage words in a text, one after the other and wherever they stand. -/
def capitalizeStage (t : Text) : Text :=
  stageWords.foldl (fun t word => Text.replaceAll word.1 word.2 t) t

/-- A number without its leading zero, if it has one. -/
def dropZero : Text → Text
  | '0' :: t => t
  | t => t

/-- Cuts a stage into its word and its number, the last two characters. -/
def splitStage (t : Text) : Except VersionFault (Text × Text) :=
  if t.length < 3 then .error .shortStage
  else
    let word := t.take (t.length - 2)
    let number := t.drop (t.length - 2)
    if number.all Char.isDigit then .ok (word, dropZero number) else .error .unnumberedStage

/-- Reads a prerelease whose parts before and after the dash are given. -/
def readPrerelease (numbers stage : Text) : Except VersionFault Version :=
  if isNumbered numbers && hasShortPatch numbers then
    match splitStage (capitalizeStage stage) with
    | .ok (word, number) => .ok (.prerelease (numbers.take (numbers.length - 2)) word number)
    | .error e => .error e
  else .error .badNumbers

/-- Reads a version. -/
def read (t : Text) : Except VersionFault Version :=
  match Text.pieces '-' t with
  | [_] => if isNumbered t then .ok (.stable t) else .error .notNumeric
  | [numbers, stage] =>
      if t.all (·.toNat < 128) then readPrerelease numbers stage else .error .notAscii
  | _ => .error .severalDashes

/-- What the names of prereleases begin with. -/
def product : Text := "Android Studio".toList

/-- The name under which the archive lists the release that belongs to a version. -/
def releaseName : Version → Text
  | .stable text => text
  | .prerelease series stage number => Text.join [' '] [product, series, stage, number]

end Version

/-- The failure to read `version`. -/
def VersionFault.failure (version : Text) (e : VersionFault) : Failure :=
  .ofKind .format ('\x27' :: version ++ "': ".toList ++ e.reason)

/-- The name of the release that belongs to the version with the given text. -/
def releaseName (version : Text) : Except Failure Text :=
  match Version.read version with
  | .ok v => .ok v.releaseName
  | .error e => .error (e.failure version)

end StudioLookup
