import StudioLookup.Text.Basic

set_option autoImplicit false

/-! # Pages

The network, as far as a client sees it: for each URL there is a page, or no connection can be
made. A page is the answer of a server, with all the ways in which an answer may fail to come.
-/

namespace StudioLookup.Web

/-- How the answer of a server arrives. -/
inductive Delivery where
  /-- Whole. -/
  | whole
  /-- With a body that ends before the announced length. -/
  | cutShort
  /-- Not at all: the connection is closed. -/
  | reset
  /-- Not at all: the connection stays open. -/
  | never
  deriving DecidableEq, Repr

/-- The answer of a server. -/
structure Page where
  status : Nat
  headers : List (Text × Text)
  body : List UInt8
  delivery : Delivery
  deriving DecidableEq, Repr

/-- The answer for a URL that leads nowhere. -/
def Page.missing : Page := ⟨404, [], [], .whole⟩

/-- The value of a header, whose name may be written in either case. -/
def Page.header? (p : Page) (name : Text) : Option Text :=
  (p.headers.find? fun h => Text.lowerAscii h.1 == Text.lowerAscii name).map (·.2)

/-- The network: what it has in answer to a request for the text of a URL, and none if no connection
can be made. -/
structure Network where
  answer? : Text → Option Page

/-- The network in which no connection can be made. -/
def Network.unreachable : Network := ⟨fun _ => none⟩

/-- The network in which each request is answered by the page under its URL. -/
def Network.serving (pages : List (Text × Page)) : Network :=
  ⟨fun url => some (((pages.find? (·.1 == url)).map (·.2)).getD Page.missing)⟩

/-- A request as it reaches a server. -/
structure Request where
  url : Text
  userAgent : Option Text
  deriving DecidableEq, Repr

end StudioLookup.Web
