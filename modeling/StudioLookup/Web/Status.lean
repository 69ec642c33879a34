import StudioLookup.Text.Basic

set_option autoImplicit false

/-! # Status codes

The classes of status codes a client tells apart, and the phrases that name the codes of
errors.
-/

namespace StudioLookup.Web

/-- Whether a status reports an error of the client or of the server. -/
def isErrorStatus (code : Nat) : Bool := 400 ≤ code && code ≤ 599

/-- Whether a status sends the client to another location. -/
def isRedirectStatus (code : Nat) : Bool := [301, 302, 303, 307, 308].contains code

/-- The phrases of the codes that report errors. -/
def errorPhrases : List (Nat × String) :=
  [(400, "Bad Request"), (401, "Unauthorized"), (402, "Payment Required"), (403, "Forbidden"),
    (404, "Not Found"), (405, "Method Not Allowed"), (406, "Not Acceptable"),
    (407, "Proxy Authentication Required"), (408, "Request Timeout"), (409, "Conflict"),
    (410, "Gone"), (411, "Length Required"), (412, "Precondition Failed"),
    (413, "Payload Too Large"), (414, "URI Too Long"), (415, "Unsupported Media Type"),
    (416, "Range Not Satisfiable"), (417, "Expectation Failed"), (418, "I'm a teapot"),
    (421, "Misdirected Request"), (422, "Unprocessable Entity"), (423, "Locked"),
    (424, "Failed Dependency"), (425, "Too Early"), (426, "Upgrade Required"),
    (428, "Precondition Required"), (429, "Too Many Requests"),
    (431, "Request Header Fields Too Large"), (451, "Unavailable For Legal Reasons"),
    (500, "Internal Server Error"), (501, "Not Implemented"), (502, "Bad Gateway"),
    (503, "Service Unavailable"), (504, "Gateway Timeout"),
    (505, "HTTP Version Not Supported"), (506, "Variant Also Negotiates"),
    (507, "Insufficient Storage"), (508, "Loop Detected"), (510, "Not Extended"),
    (511, "Network Authentication Required")]

/-- The phrase of a code that reports an error. -/
def statusPhrase (code : Nat) : Text :=
  match errorPhrases.find? (·.1 == code) with
  | some e => e.2.toList
  | none => "<unknown status code>".toList

/-- A code with its phrase. -/
def statusText (code : Nat) : Text := Text.decimal code ++ ' ' :: statusPhrase code

end StudioLookup.Web
