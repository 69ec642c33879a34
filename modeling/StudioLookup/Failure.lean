import StudioLookup.Text.Quoted

set_option autoImplicit false

/-! # Failures

A failure starts with a cause and collects notes on its way up. The cause is either a
`Fault` of one of four kinds, which tells a user what to do about it, or an unclassified
message. The notes and the message of the cause form the *chain* of the failure, outermost
first; its first text is what the failure says of itself, and the others are what it was
caused by.

`Failure.inLine` writes the chain on one line and `Failure.report` on several, in the form
that is shown to the user.
-/

namespace StudioLookup

/-- What kind of thing went wrong. -/
inductive FaultKind where
  /-- The version text does not have the expected shape. -/
  | format
  /-- A page could not be fetched. -/
  | network
  /-- A fetched page does not hold what was looked for. -/
  | notFound
  /-- The properties file could not be written. -/
  | io
  deriving DecidableEq, Repr

/-- A classified cause of failure. -/
structure Fault where
  kind : FaultKind
  detail : Text
  deriving DecidableEq, Repr

/-- The words of a fault. -/
def Fault.message (f : Fault) : Text :=
  match f.kind with
  | .format => "Invalid AGP version: ".toList ++ f.detail
  | .network => "Network error: ".toList ++ f.detail
  | .notFound =>
      "Not found: ".toList ++ f.detail ++
        ". The release may not be published yet, or the archive layout changed.".toList
  | .io => "I/O error: ".toList ++ f.detail

/-- The name of a kind. -/
def FaultKind.name : FaultKind → Text
  | .format => "Format".toList
  | .network => "Network".toList
  | .notFound => "NotFound".toList
  | .io => "Io".toList

/-- A fault as its kind applied to its detail in quotation marks, for those who look for the
exact text of the detail. -/
def Fault.term (f : Fault) : Text := f.kind.name ++ '(' :: Text.quoted f.detail ++ [')']

/-- Where a failure starts. -/
inductive Cause where
  | fault (f : Fault)
  | plain (message : Text)
  deriving DecidableEq, Repr

/-- The words of a cause. -/
def Cause.message : Cause → Text
  | .fault f => f.message
  | .plain m => m

/-- A cause with the notes that were added to it, the latest and outermost first. -/
structure Failure where
  notes : List Text
  cause : Cause
  deriving DecidableEq, Repr

namespace Failure

/-- A failure of the given kind, without notes. -/
def ofKind (kind : FaultKind) (detail : Text) : Failure := ⟨[], .fault ⟨kind, detail⟩⟩

/-- An unclassified failure, without notes. -/
def plain (message : Text) : Failure := ⟨[], .plain message⟩

/-- Adds a note around a failure. -/
def withNote (note : Text) (f : Failure) : Failure := { f with notes := note :: f.notes }

/-- The failure with the given chain of unclassified texts, outermost first. An empty chain
stands for one empty text. -/
def ofChain : List Text → Failure
  | [] => plain []
  | [m] => plain m
  | n :: m :: ms => (ofChain (m :: ms)).withNote n

/-- The fault at the bottom of a failure, through any number of notes. -/
def fault? (f : Failure) : Option Fault :=
  match f.cause with
  | .fault x => some x
  | .plain _ => none

/-- The kind of a failure; none if its cause is unclassified. -/
def kind? (f : Failure) : Option FaultKind := f.fault?.map Fault.kind

/-! ## The chain and its written forms -/

/-- All texts of a failure, outermost first. -/
def chain (f : Failure) : List Text := f.notes ++ [f.cause.message]

/-- What a failure says of itself: the outermost text of its chain. -/
def headline (f : Failure) : Text := f.notes.headD f.cause.message

/-- What a failure was caused by: all texts but the outermost. -/
def causes (f : Failure) : List Text := f.chain.tail

@[simp] theorem chain_withNote (note : Text) (f : Failure) :
    (f.withNote note).chain = note :: f.chain := rfl

/-- A note does not change what kind of failure it is. -/
@[simp] theorem kind?_withNote (note : Text) (f : Failure) :
    (f.withNote note).kind? = f.kind? := rfl

/-- The chain on one line, joined by colons. -/
def inLine (f : Failure) : Text := Text.join ": ".toList f.chain

/-- A text whose first line follows `lead` and whose further lines follow `indent`. -/
def hanging (lead indent t : Text) : Text :=
  lead ++ Text.join ('\n' :: indent) (Text.pieces '\n' t)

/-- The number of a cause, right-aligned to five columns. -/
def causeNumber (n : Nat) : Text :=
  let digits := Text.decimal n
  List.replicate (5 - digits.length) ' ' ++ digits ++ ": ".toList

/-- The causes of a failure as a numbered list, counted from `n`. -/
def numberedCauses : Nat → List Text → Text
  | _, [] => []
  | n, t :: ts =>
      '\n' :: hanging (causeNumber n) (List.replicate 7 ' ') t ++ numberedCauses (n + 1) ts

/-- The failure on several lines: its headline, and below it the causes, which are numbered
if there are several. -/
def report (f : Failure) : Text :=
  f.headline ++
    match f.causes with
    | [] => []
    | [t] =>
        "\n\nCaused by:\n".toList ++ hanging (List.replicate 4 ' ') (List.replicate 4 ' ') t
    | ts => "\n\nCaused by:".toList ++ numberedCauses 0 ts

end Failure

end StudioLookup
