import StudioLookup.Url.Host

set_option autoImplicit false

/-! # URLs

A URL has a scheme, possibly an authority, a path, and possibly a query and a fragment. Its
parts are kept in the form in which they are written, so that writing a URL is joining them.
-/

namespace StudioLookup

namespace Url

/-! ## Schemes -/

/-- How the rest of a URL is read after its scheme. -/
inductive SchemeKind where
  /-- One of the schemes of the web, which always have a host and a path. -/
  | web
  /-- The scheme of files, which may have a host and knows the letters of drives. -/
  | file
  /-- Any other scheme. -/
  | other
  deriving DecidableEq, Repr

/-- The schemes of the web and their ports. -/
def webPorts : List (Text × Nat) :=
  [("http".toList, 80), ("https".toList, 443), ("ws".toList, 80), ("wss".toList, 443),
    ("ftp".toList, 21)]

/-- The port of a scheme, which is not written. -/
def defaultPort? (scheme : Text) : Option Nat :=
  (webPorts.find? (·.1 == scheme)).map (·.2)

/-- The kind of a scheme. -/
def schemeKind (scheme : Text) : SchemeKind :=
  if scheme == "file".toList then .file
  else if (defaultPort? scheme).isSome then .web
  else .other

/-- Whether a backslash stands for a slash. -/
def SchemeKind.foldsBackslash : SchemeKind → Bool
  | .other => false
  | _ => true

/-! ## Parts -/

/-- The user name and password of a URL, in their encoded form. At least one of them is not
empty. -/
structure Credentials where
  user : Text
  password : Option Text
  deriving DecidableEq, Repr

/-- Credentials as they stand before the host. -/
def Credentials.toText (c : Credentials) : Text :=
  c.user ++ (match c.password with
    | some p => ':' :: p
    | none => []) ++ ['@']

/-- Where a URL is to be looked for. -/
structure Authority where
  credentials : Option Credentials
  host : Host
  port : Option Nat
  deriving DecidableEq, Repr

/-- The authority of a URL without host, credentials and port. -/
def Authority.empty : Authority := ⟨none, .name [], none⟩

/-- An authority as it stands behind two slashes. -/
def Authority.toText (a : Authority) : Text :=
  (match a.credentials with
    | some c => c.toText
    | none => []) ++ a.host.toText ++
  match a.port with
  | some p => ':' :: Text.decimal p
  | none => []

end Url

/-- A URL. -/
structure Url where
  scheme : Text
  authority : Option Url.Authority
  path : Text
  query : Option Text
  fragment : Option Text
  deriving DecidableEq, Repr

namespace Url

/-- A part behind its mark, if it is there. -/
def marked (mark : Char) : Option Text → Text
  | some t => mark :: t
  | none => []

/-- What stands between the scheme and the path. Without an authority, a path that begins with
two slashes is kept apart from them. -/
def beforePath (u : Url) : Text :=
  match u.authority with
  | some a => '/' :: '/' :: a.toText
  | none => if ['/', '/'].isPrefixOf u.path then ['/', '.'] else []

/-- A URL as a text. -/
def toText (u : Url) : Text :=
  u.scheme ++ ':' :: u.beforePath ++ u.path ++ marked '?' u.query ++ marked '#' u.fragment

/-- Whether the path of a URL has no hierarchy, so that no reference can be resolved against
it. -/
def isOpaque (u : Url) : Bool := u.authority.isNone && u.path.head? != some '/'

/-- Whether a URL names a host. -/
def hasHost (u : Url) : Bool :=
  match u.authority with
  | some a => !a.host.isEmpty
  | none => false

/-- The URL without its fragment. -/
def withoutFragment (u : Url) : Url := { u with fragment := none }

end Url

end StudioLookup
