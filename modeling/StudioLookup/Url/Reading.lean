import StudioLookup.Url.Segments

set_option autoImplicit false

/-! # Reading URLs

`Url.read` reads a text as a URL, and `Url.join` reads it as a reference from another URL, the
base. A reference without a scheme of its own takes from the base all that it leaves out.

Blanks and controls around the text are dropped, and so are tabs and line ends inside it. In
the schemes of the web a backslash counts as a slash, any number of slashes may stand before
the authority, and there has to be a host.
-/

namespace StudioLookup.Url

/-! ## Splitting the text -/

/-- Whether a character is a control or a blank. -/
def isBlank (c : Char) : Bool := c.toNat ≤ 0x20

/-- Whether a character is a tab or ends a line. -/
def isLineBreak (c : Char) : Bool := c == '\t' || c == '\n' || c == '\r'

/-- A text without the characters that are dropped before reading. -/
def cleaned (t : Text) : Text :=
  (((t.dropWhile isBlank).reverse.dropWhile isBlank).reverse).filter (!isLineBreak ·)

/-- Whether a character may stand in a scheme. -/
def isSchemeChar (c : Char) : Bool := c.isAlphanum || c == '+' || c == '-' || c == '.'

/-- The scheme at the beginning of a text, and what stands behind its colon. -/
def splitScheme? (t : Text) : Option (Text × Text) :=
  if (t.head?.map Char.isAlpha).getD false then
    match t.dropWhile isSchemeChar with
    | ':' :: rest => some (Text.lowerAscii (t.takeWhile isSchemeChar), rest)
    | _ => none
  else none

/-- Whether a character is a slash, or a backslash. -/
def isSlash (c : Char) : Bool := c == '/' || c == '\\'

/-- Whether a character ends the authority or a part of it. -/
def endsAuthority (kind : SchemeKind) (c : Char) : Bool :=
  c == '/' || c == '?' || c == '#' || (kind.foldsBackslash && c == '\\')

/-- Whether a character ends the path. -/
def endsPath (c : Char) : Bool := c == '?' || c == '#'

/-! ## Query and fragment -/

/-- A fragment in encoded form. -/
def fragmentOf (t : Text) : Text := percentEncode fragmentSpecial t

/-- The query and the fragment of a text that is empty or begins with the mark of one. -/
def tailOf (kind : SchemeKind) (t : Text) : Option Text × Option Text :=
  let special := if kind == .other then plainQuerySpecial else webQuerySpecial
  match t with
  | '?' :: rest =>
      (some (percentEncode special (rest.takeWhile (· != '#'))),
        match rest.dropWhile (· != '#') with
        | _ :: f => some (fragmentOf f)
        | [] => none)
  | '#' :: f => (none, some (fragmentOf f))
  | _ => (none, none)

/-- A URL whose query and fragment are read from `t`. -/
def withTail (u : Url) (t : Text) : Url :=
  let (query, fragment) := tailOf (schemeKind u.scheme) t
  { u with query := query, fragment := fragment }

/-- Reads a path behind `before`, and the query and fragment behind it. -/
def withPath (u : Url) (before t : Text) : Url :=
  let so := extendPath (schemeKind u.scheme) before (t.takeWhile (!endsPath ·))
  { u with path := so.path }.withTail (t.dropWhile (!endsPath ·))

/-! ## The authority -/

/-- What stands before the last at sign of a text and behind it. -/
def splitAtSign? (t : Text) : Option (Text × Text) :=
  if t.contains '@' then
    some ((t.reverse.dropWhile (· != '@')).tail.reverse,
      (t.reverse.takeWhile (· != '@')).reverse)
  else none

/-- The credentials before an at sign, if they are not empty. An empty password is left
out. -/
def credentialsOf (t : Text) : Option Credentials :=
  let user := percentEncode credentialSpecial (t.takeWhile (· != ':'))
  match t.dropWhile (· != ':') with
  | _ :: p :: ps => some ⟨user, some (percentEncode credentialSpecial (p :: ps))⟩
  | _ => if user.isEmpty then none else some ⟨user, none⟩

/-- The host at the beginning of a text and what stands behind it. A colon inside brackets
does not end it. -/
def splitHost (kind : SchemeKind) : Bool → Text → Text × Text
  | _, [] => ([], [])
  | inside, c :: t =>
      if endsAuthority kind c || (c == ':' && !inside) then ([], c :: t)
      else
        let (host, rest) := splitHost kind (c == '[' || (inside && c != ']')) t
        (c :: host, rest)

/-- The port behind a colon and what stands behind it. The usual port of the scheme is left
out. -/
def portOf (scheme : Text) (t : Text) : Except UrlFault (Option Nat × Text) :=
  let digits := t.takeWhile Char.isDigit
  let rest := t.dropWhile Char.isDigit
  let ended := match rest with
    | [] => true
    | c :: _ => isSlash c || endsPath c
  match Text.number? 10 digits with
  | none => .error .badPort
  | some n =>
      if !ended || 65535 < n then .error .badPort
      else if digits.isEmpty || defaultPort? scheme == some n then .ok (none, rest)
      else .ok (some n, rest)

/-- The host of a URL of the given kind. -/
def hostOf (kind : SchemeKind) (t : Text) : Except UrlFault Host :=
  match kind with
  | .other => Host.ofOther t
  | _ => if t.isEmpty then .error .emptyHost else Host.ofWeb t

/-- Host and port at the beginning of a text, and what stands behind them. -/
def hostAndPort (scheme : Text) (t : Text) : Except UrlFault (Host × Option Nat × Text) := do
  let kind := schemeKind scheme
  let (hostText, rest) := splitHost kind false t
  let host ← hostOf kind hostText
  match rest with
  | ':' :: behind =>
      if host.isEmpty then throw .emptyHost
      let (port, rest) ← portOf scheme behind
      return (host, port, rest)
  | _ => return (host, none, rest)

/-- The authority at the beginning of a text, and what stands behind it. Credentials need a
host. -/
def authorityOf (scheme : Text) (t : Text) : Except UrlFault (Authority × Text) := do
  let kind := schemeKind scheme
  let extent := t.takeWhile (!endsAuthority kind ·)
  let behind := t.dropWhile (!endsAuthority kind ·)
  match splitAtSign? extent with
  | none =>
      let (host, port, rest) ← hostAndPort scheme t
      return (⟨none, host, port⟩, rest)
  | some (info, extent) =>
      if info.isEmpty && extent.isEmpty && !behind.isEmpty then throw .emptyHost
      let credentials := credentialsOf info
      let (host, port, rest) ← hostAndPort scheme (extent ++ behind)
      if host.isEmpty && credentials.isSome then throw .emptyHost
      return (⟨credentials, host, port⟩, rest)

/-- Reads a URL behind the slashes that announce its authority. -/
def readAuthority (scheme : Text) (t : Text) : Except UrlFault Url := do
  let (authority, rest) ← authorityOf scheme t
  let u : Url := ⟨scheme, some authority, [], none, none⟩
  match schemeKind scheme with
  | .other =>
      match rest with
      | [] => return u
      | c :: _ => return if endsPath c then u.withTail rest
          else u.withPath (if c = '/' then [] else ['/']) rest
  | _ =>
      match rest with
      | [] => return { u with path := ['/'] }
      | c :: behind => return u.withPath ['/'] (if isSlash c then behind else rest)

/-! ## References -/

/-- The base with another fragment. -/
def withFragmentOf (base : Url) (t : Text) : Url := { base with fragment := some (fragmentOf t) }

/-- The base with its path cut at its last segment, for a path that takes its place. -/
def withSibling (base : Url) (t : Text) : Url :=
  let kind := schemeKind base.scheme
  let kept := dropSegment kind base.path
  base.withPath (if kept.isEmpty then ['/'] else kept) t

/-- Reads a reference without scheme from a base that is not a file. -/
def readRelative (base : Url) (t : Text) : Except UrlFault Url :=
  match t with
  | [] => .ok base.withoutFragment
  | '#' :: f => .ok (base.withFragmentOf f)
  | '?' :: _ => .ok (base.withTail t)
  | c :: rest =>
      if isSlash c then
        match rest with
        | d :: behind =>
            if isSlash d then
              readAuthority base.scheme
                (if c == '/' && d == '/' then behind else t.dropWhile isSlash)
            else .ok (base.withPath ['/'] rest)
        | [] => .ok (base.withPath ['/'] rest)
      else .ok (base.withSibling t)

/-! ## Files -/

/-- What a file URL begins with. -/
def fileScheme : Text := "file".toList

/-- A file without host, whose path is still to be read. -/
def localFile : Url := ⟨fileScheme, some .empty, [], none, none⟩

/-- Reads a file behind two slashes: a host, unless it is the letter of a drive, and a path.
The host of this machine is left out, and so is a host before a drive. -/
def readFileHost (t : Text) : Except UrlFault Url := do
  let hostText := t.takeWhile (!endsAuthority .file ·)
  let rest := t.dropWhile (!endsAuthority .file ·)
  if hostText.isEmpty || isDriveLetter hostText then
    return localFile.withPath ['/'] (if isDriveLetter hostText then t else rest)
  let host ← Host.ofWeb hostText
  if host == .name "localhost".toList then return localFile.withPath ['/'] rest
  let path := match rest with
    | c :: behind => if isSlash c then behind else rest
    | [] => rest
  let so := extendPath .file ['/'] (path.takeWhile (!endsPath ·))
  let u : Url := if so.metDrive then localFile
    else { localFile with authority := some ⟨none, host, none⟩ }
  return u.withPath ['/'] path

/-- The first segment of a path behind its slash. -/
def firstSegment (p : Text) : Text := p.tail.takeWhile (· != '/')

/-- Reads a file behind one slash: on the drive of the base, or else on its host. -/
def readFileRoot (base : Option Url) (t : Text) : Url :=
  match base with
  | none => localFile.withPath [] t
  | some b =>
      if startsWithDrive t.tail then localFile.withPath [] t
      else if isNormalDriveLetter (firstSegment b.path) then
        localFile.withPath ('/' :: firstSegment b.path) t
      else { localFile with authority := b.authority }.withPath [] t

/-- Reads a file behind its scheme, or a reference from a file. -/
def readFile (base : Option Url) (t : Text) : Except UrlFault Url :=
  match t with
  | c :: d :: rest =>
      if isSlash c then
        if isSlash d then readFileHost rest else .ok (readFileRoot base t)
      else readFilePath base t
  | [c] => if isSlash c then .ok (readFileRoot base t) else readFilePath base t
  | [] => readFilePath base t
where
  /-- Reads what does not begin with a slash. -/
  readFilePath (base : Option Url) (t : Text) : Except UrlFault Url :=
    match base with
    | none => .ok (localFile.withPath ['/'] t)
    | some b =>
        match t with
        | [] => .ok b.withoutFragment
        | '#' :: f => .ok (b.withFragmentOf f)
        | '?' :: _ => .ok (b.withTail t)
        | _ =>
            if startsWithDrive t then .ok (localFile.withPath ['/'] t)
            else .ok (b.withPath (dropSegment .file b.path) t)

/-! ## The whole -/

/-- Reads a URL behind a scheme outside the web. Without a slash its path has no hierarchy. -/
def readOther (scheme : Text) (t : Text) : Except UrlFault Url :=
  let u : Url := ⟨scheme, none, [], none, none⟩
  match t with
  | '/' :: '/' :: rest => readAuthority scheme rest
  | '/' :: rest => .ok (u.withPath ['/'] rest)
  | _ =>
      let path := percentEncode [] (t.takeWhile (!endsPath ·))
      .ok ({ u with path := path }.withTail (t.dropWhile (!endsPath ·)))

/-- The base of a reference with the given scheme, if it has the same. -/
def sameScheme (base : Option Url) (scheme : Text) : Option Url :=
  base.filter (·.scheme == scheme)

/-- Reads a URL with a scheme. In the schemes of the web fewer than two slashes behind the
scheme of the base make a reference from it. -/
def readWithScheme (base : Option Url) (scheme t : Text) : Except UrlFault Url :=
  match schemeKind scheme with
  | .file => readFile (sameScheme base scheme) t
  | .other => readOther scheme t
  | .web =>
      match sameScheme base scheme with
      | some b =>
          if (t.takeWhile isSlash).length < 2 then readRelative b t
          else readAuthority scheme (t.dropWhile isSlash)
      | none => readAuthority scheme (t.dropWhile isSlash)

/-- Reads a URL without scheme. -/
def readWithoutScheme (base : Option Url) (t : Text) : Except UrlFault Url :=
  match base with
  | none => .error .relativeWithoutBase
  | some b =>
      match t with
      | '#' :: f => .ok (b.withFragmentOf f)
      | _ =>
          if b.isOpaque then .error .relativeToOpaqueBase
          else if schemeKind b.scheme == .file then readFile (some b) t
          else readRelative b t

/-- Reads a URL, or a reference if there is a base. -/
def readFrom (base : Option Url) (t : Text) : Except UrlFault Url :=
  match splitScheme? (cleaned t) with
  | some (scheme, rest) => readWithScheme base scheme rest
  | none => readWithoutScheme base (cleaned t)

/-- Reads a URL. -/
def read (t : Text) : Except UrlFault Url := readFrom none t

/-- The URL that `reference` means when it is found in a page at `base`. -/
def join (base : Url) (reference : Text) : Except UrlFault Url := readFrom (some base) reference

end StudioLookup.Url
