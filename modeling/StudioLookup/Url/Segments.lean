import StudioLookup.Url.Basic

set_option autoImplicit false

/-! # Paths of URLs

A path is read segment by segment, each segment being written behind the path so far: `.`
stays in place, `..` takes back the last segment, and any other segment is appended in encoded
form. In the scheme of files a first segment such as `C:` or `C|` is the letter of a drive,
above which a path does not climb.
-/

namespace StudioLookup.Url

/-! ## Letters of drives -/

/-- Whether a segment is a letter followed by a colon or a bar. -/
def isDriveLetter : Text → Bool
  | [c, d] => c.isAlpha && (d == ':' || d == '|')
  | _ => false

/-- Whether a segment is a letter followed by a colon. -/
def isNormalDriveLetter : Text → Bool
  | [c, d] => c.isAlpha && d == ':'
  | _ => false

/-- Whether a text begins with the letter of a drive as its first segment. -/
def startsWithDrive : Text → Bool
  | [c, d] => isDriveLetter [c, d]
  | c :: d :: e :: _ => isDriveLetter [c, d] && "/\\?#".toList.contains e
  | _ => false

/-! ## Taking back -/

/-- The characters behind the last slash. -/
def lastSegment (p : Text) : Text := (p.reverse.takeWhile (· != '/')).reverse

/-- All up to the last slash. -/
def throughLastSlash (p : Text) : Text := (p.reverse.dropWhile (· != '/')).reverse

/-- The path without its last segment, the slash before it being kept. The letter of a drive
is not taken back. -/
def dropSegment (kind : SchemeKind) (p : Text) : Text :=
  if kind == .file && isNormalDriveLetter (lastSegment p) then p else throughLastSlash p

/-- The path without a slash at its end, unless it is the slash at the beginning or stands
behind the letter of a drive. -/
def dropSlash (p : Text) : Text :=
  let shorter := p.dropLast
  if p.getLast? == some '/' && shorter.contains '/' &&
      !startsWithDrive (lastSegment shorter ++ ['/']) then
    shorter
  else p

/-- The path with a slash at its end. -/
def withSlash (p : Text) : Text := if p.getLast? == some '/' then p else p ++ ['/']

/-! ## Segments -/

/-- Whether a segment stays in place; the dot may be encoded. -/
def isSingleDot (s : Text) : Bool := s == ['.'] || Text.lowerAscii s == "%2e".toList

/-- Whether a segment goes up; the dots may be encoded. -/
def isDoubleDot (s : Text) : Bool :=
  ["..".toList, "%2e%2e".toList, "%2e.".toList, ".%2e".toList].contains (Text.lowerAscii s)

/-- A path while it is being read, and whether it has met the letter of a drive, before which
no host may stand. -/
structure PathSoFar where
  path : Text
  metDrive : Bool

/-- Reads one segment; `more` tells whether a slash follows it. -/
def addSegment (kind : SchemeKind) (so : PathSoFar) (raw : Text) (more : Bool) : PathSoFar :=
  let opens := kind == .file && !raw.isEmpty && isNormalDriveLetter so.path.tail
  let before := if opens then so.path ++ ['/'] else so.path
  let segment := percentEncode pathSpecial raw
  if isDoubleDot segment then
    let up := dropSegment kind (dropSlash before)
    { so with path := if more then withSlash up else up }
  else if isSingleDot segment then { so with path := withSlash before }
  else
    let drive := kind == .file && before.length == 1 && isDriveLetter segment
    let segment := if drive then segment.take 1 ++ [':'] else segment
    ⟨before ++ segment ++ if more then ['/'] else [], so.metDrive || drive⟩

/-- Reads segments, the last of which no slash follows. -/
def addSegments (kind : SchemeKind) : PathSoFar → List Text → PathSoFar
  | so, [] => so
  | so, [s] => addSegment kind so s false
  | so, s :: t :: ts => addSegments kind (addSegment kind so s true) (t :: ts)

/-- A text with slashes for backslashes, where the scheme has them mean the same. -/
def foldBackslashes (kind : SchemeKind) (t : Text) : Text :=
  if kind.foldsBackslash then t.map fun c => if c = '\\' then '/' else c else t

/-- Reads a path behind the path `before`. A path of a file begins with one slash only. -/
def extendPath (kind : SchemeKind) (before t : Text) : PathSoFar :=
  let so := addSegments kind ⟨before, false⟩ (Text.pieces '/' (foldBackslashes kind t))
  if kind == .file then { so with path := '/' :: so.path.dropWhile (· == '/') } else so

end StudioLookup.Url
