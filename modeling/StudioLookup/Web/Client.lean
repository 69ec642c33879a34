import StudioLookup.Failure
import StudioLookup.Url.Reading
import StudioLookup.Web.Page
import StudioLookup.Web.Status

set_option autoImplicit false

/-! # The client

`getText` fetches the text of a page. It follows redirects, up to ten of them, refuses pages
that report an error, and decodes the body as UTF-8. Nothing is tried twice. Each of these steps
may end with an error of the client, which becomes a failure of the network that names the URL as
it was asked for (`networkFailure`).

What is fetched comes as an `Exchange`: the result, together with the requests that reached a
server on the way.
-/

namespace StudioLookup.Web

/-! ## Exchanges -/

/-- A result and the requests that were made for it, in order. -/
structure Exchange (α : Type) where
  result : Except Failure α
  requests : List Request

namespace Exchange

/-- A result that takes no request. -/
def done {α : Type} (result : Except Failure α) : Exchange α := ⟨result, []⟩

/-- Goes on with the result of an exchange, if there is one. -/
def andThen {α β : Type} (x : Exchange α) (next : α → Exchange β) : Exchange β :=
  match x.result with
  | .ok a =>
      let y := next a
      ⟨y.result, x.requests ++ y.requests⟩
  | .error e => ⟨.error e, x.requests⟩

end Exchange

/-! ## Errors -/

/-- An error of the client, by what can be asked about it. -/
structure ClientError where
  /-- Whether the time for an answer has run out. -/
  isTimeout : Bool
  /-- The status that is reported as an error. -/
  status? : Option Nat
  text : Text
  deriving DecidableEq, Repr

namespace ClientError

/-- What has gone wrong, with the URL where it did. -/
def textFor (what : Text) (u : Url) : Text := what ++ " for url (".toList ++ u.toText ++ [')']

/-- An error that has to do neither with time nor with a status. -/
def other (text : Text) : ClientError := ⟨false, none, text⟩

/-- The text asked for is no URL. -/
def unreadableUrl : ClientError := other "builder error".toList

/-- There is no way to send a request to such a URL. -/
def unusableUrl (u : Url) : ClientError := other (textFor "builder error".toList u)

def notSent (u : Url) : ClientError := other (textFor "error sending request".toList u)

def tooManyRedirects (u : Url) : ClientError := other (textFor "error following redirect".toList u)

def bodyCutShort : ClientError := other "error decoding response body".toList

def timedOut (u : Url) : ClientError := { notSent u with isTimeout := true }

def ofStatus (u : Url) (code : Nat) : ClientError :=
  let side := if code < 500 then "client".toList else "server".toList
  let what := "HTTP status ".toList ++ side ++ " error (".toList ++ statusText code ++ [')']
  ⟨false, some code, textFor what u⟩

end ClientError

/-- The failure that an error becomes when the text `asked` was asked for. Whether time has run out
is looked at first, and then whether there is a status. -/
def networkFailure (asked : Text) (e : ClientError) : Failure :=
  .ofKind .network <|
    if e.isTimeout then "request to ".toList ++ asked ++ " timed out".toList
    else
      match e.status? with
      | some code => "HTTP ".toList ++ statusText code ++ " for ".toList ++ asked
      | none => "request to ".toList ++ asked ++ " failed: ".toList ++ e.text

/-! ## Requests -/

/-- Whether the host of a URL may stand in the head of a request. -/
def isSendable (u : Url) : Bool :=
  match u.authority with
  | some a => !a.host.toText.any "\x22\x60\x7b\x7d".toList.contains
  | none => false

/-- Whether the scheme of a URL is one that pages are fetched by. -/
def isPageScheme (u : Url) : Bool :=
  u.scheme == "http".toList || u.scheme == "https".toList

/-- The URL without its credentials, which are sent apart from it. Credentials that are no text
stay where they are. -/
def withoutCredentials (u : Url) : Url :=
  match u.authority with
  | none => u
  | some a =>
      match a.credentials with
      | none => u
      | some c =>
          let decoded (t : Text) : Option Text := Text.decode? (Url.percentDecode t)
          let sent := match decoded c.user with
            | none => false
            | some user => !user.isEmpty || (c.password.bind decoded).isSome
          if sent then { u with authority := some { a with credentials := none } } else u

/-- The text under which the network knows the page of a URL. -/
def pageKey (u : Url) : Text := u.withoutFragment.toText

/-- Where a page sends the client, if it is a redirect. -/
def redirectTarget? (u : Url) (p : Page) : Option Url :=
  if isRedirectStatus p.status then
    match p.header? "location".toList with
    | none => none
    | some location =>
        match u.join location with
        | .ok target => some target
        | .error _ => none
  else none

/-- A page together with the URL it was found at. -/
structure Response where
  url : Url
  page : Page
  deriving DecidableEq, Repr

/-- Fetches the page of a URL, following as many redirects as are left. `first` is the URL the
client was asked for. -/
def follow (net : Network) (agent : Option Text) (first : Url) :
    Nat → Url → Except ClientError Response × List Request
  | left, u =>
      match net.answer? (pageKey u) with
      | none => (.error (.notSent first), [])
      | some p =>
          let request : Request := ⟨pageKey u, agent⟩
          match p.delivery with
          | .never => (.error (.timedOut first), [request])
          | .reset => (.error (.notSent first), [request])
          | _ =>
              match redirectTarget? u p, left with
              | none, _ => (.ok ⟨u, p⟩, [request])
              | some _, 0 => (.error (.tooManyRedirects u), [request])
              | some target, left + 1 =>
                  if isPageScheme target then
                    let (result, requests) := follow net agent first left target
                    (result, request :: requests)
                  else (.error (.unusableUrl target), [request])

/-- The number of redirects that are followed. -/
def maxRedirects : Nat := 10

/-- Sends the request for a URL. -/
def sendUrl (net : Network) (agent : Option Text) (u : Url) :
    Except ClientError Response × List Request :=
  if !u.hasHost then (.error (.unusableUrl u), [])
  else
    let sent := withoutCredentials u
    if isPageScheme sent && isSendable sent then follow net agent sent maxRedirects sent
    else (.error (.unusableUrl sent), [])

/-- Sends the request for a text. -/
def send (net : Network) (agent : Option Text) (asked : Text) :
    Except ClientError Response × List Request :=
  match Url.read asked with
  | .error _ => (.error .unreadableUrl, [])
  | .ok u => sendUrl net agent u

/-- Refuses a page that reports an error. -/
def Response.withoutError (r : Response) : Except ClientError Response :=
  if isErrorStatus r.page.status then .error (.ofStatus r.url r.page.status) else .ok r

/-- The text of the body. -/
def Response.text (r : Response) : Except ClientError Text :=
  if r.page.delivery = .cutShort then .error .bodyCutShort
  else .ok (Text.decodeLossy r.page.body)

/-- The text that the request for the text `asked` has led to. -/
def receive (asked : Text) (sent : Except ClientError Response) : Except Failure Text := do
  let response ← sent.mapError (networkFailure asked)
  let response ← response.withoutError.mapError (networkFailure asked)
  response.text.mapError (networkFailure asked)

/-- The text of the page asked for. -/
def getText (net : Network) (agent : Option Text) (asked : Text) : Exchange Text :=
  let sent := send net agent asked
  ⟨receive asked sent.1, sent.2⟩

/-- What the client calls itself. -/
def userAgent : Text := "studio-versions-cli".toList

/-- How long an answer is waited for, in seconds. -/
def defaultTimeout : Nat := 30

end StudioLookup.Web
