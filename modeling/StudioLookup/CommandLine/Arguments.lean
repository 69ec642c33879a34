import StudioLookup.Update

set_option autoImplicit false

/-! # Arguments

The arguments of the command are read from left to right. An option takes its value from
behind an equals sign or, if it has none, from the next argument, which may not begin with a
hyphen unless it is a lone one; `-o` takes it also from what is attached to it. Everything else
that does not begin with a hyphen, and everything behind `--`, is the version. The first
argument that is wrong ends the reading, and so does the request for help or for the version
of the program.

A value is examined only when the next argument is accepted, so that an argument that is
unknown is reported before a bad value in front of it.

What is missing at the end is taken from the environment, for the options that have a variable
there.
-/

namespace StudioLookup.CommandLine

/-! ## What can be given -/

/-- An option with a value. -/
inductive Setting where
  | archiveUrl
  | toolDirectory
  | output
  | timeout
  deriving DecidableEq, Repr

/-- An option without a value. -/
inductive Switch where
  | dryRun
  | help
  | version
  deriving DecidableEq, Repr

/-- The name of an option behind two hyphens. -/
def Setting.name : Setting → Text
  | .archiveUrl => "archive-url".toList
  | .toolDirectory => "tool-dir".toList
  | .output => "output".toList
  | .timeout => "timeout".toList

/-- What stands for the value of an option in messages. -/
def Setting.valueName : Setting → Text
  | .archiveUrl => "URL".toList
  | .toolDirectory => "PATH".toList
  | .output => "PATH".toList
  | .timeout => "SECS".toList

/-- The name of a switch behind two hyphens. -/
def Switch.name : Switch → Text
  | .dryRun => "dry-run".toList
  | .help => "help".toList
  | .version => "version".toList

/-- An option as messages show it. -/
def Setting.label (o : Setting) : Text :=
  "--".toList ++ o.name ++ " <".toList ++ o.valueName ++ ['>']

/-- A switch as messages show it. -/
def Switch.label (f : Switch) : Text := "--".toList ++ f.name

/-- The option of the given name. -/
def Setting.ofName? (name : Text) : Option Setting :=
  [Setting.archiveUrl, .toolDirectory, .output, .timeout].find? (·.name == name)

/-- The switch of the given name. -/
def Switch.ofName? (name : Text) : Option Switch :=
  [Switch.dryRun, .help, .version].find? (·.name == name)

/-! ## What can be wrong -/

/-- Why a text is no number of seconds. -/
inductive NumberFault where
  | empty
  | badDigit
  | tooLarge
  deriving DecidableEq, Repr

/-- What is wrong with a number, in words. -/
def NumberFault.message : NumberFault → Text
  | .empty => "cannot parse integer from empty string".toList
  | .badDigit => "invalid digit found in string".toList
  | .tooLarge => "number too large to fit in target type".toList

/-- Why the arguments are refused. -/
inductive UsageFault where
  | missingVersion
  | unexpected (argument : Text)
  | missingValue (o : Setting)
  | badValue (o : Setting) (value : Text) (e : NumberFault)
  | repeated (label : Text)
  | unneededValue (f : Switch) (value : Text)
  deriving DecidableEq, Repr

/-- What is wrong with the arguments, in words. -/
def UsageFault.message : UsageFault → Text
  | .missingVersion => "error: the following required arguments were not provided:".toList
  | .unexpected a => "error: unexpected argument '".toList ++ a ++ "' found".toList
  | .missingValue o =>
      "error: a value is required for '".toList ++ o.label ++ "' but none was supplied".toList
  | .badValue o v e =>
      "error: invalid value '".toList ++ v ++ "' for '".toList ++ o.label ++ "': ".toList ++
        e.message
  | .repeated l =>
      "error: the argument '".toList ++ l ++ "' cannot be used multiple times".toList
  | .unneededValue f v =>
      "error: unexpected value '".toList ++ v ++ "' for '".toList ++ f.label ++
        "' found; no more were expected".toList

/-! ## Values -/

/-- Numbers of seconds stay below this bound. -/
def timeoutBound : Nat := Nat.pow 2 64

/-- Reads the digits of a number of seconds behind those already read. The first character at
which something is wrong decides. -/
def readSeconds : Nat → Text → Except NumberFault Nat
  | read, [] => .ok read
  | read, c :: t =>
      match Text.digitValue? 10 c with
      | none => .error .badDigit
      | some d =>
          if read * 10 + d < timeoutBound then readSeconds (read * 10 + d) t
          else .error .tooLarge

/-- The number of seconds a text stands for. A plus sign may stand before the digits. -/
def seconds? : Text → Except NumberFault Nat
  | [] => .error .empty
  | ['+'] => .error .badDigit
  | '+' :: t => readSeconds 0 t
  | t => readSeconds 0 t

/-- What has been given. -/
structure Given where
  version : Option Text
  archiveUrl : Option Text
  toolDirectory : Option Text
  output : Option Text
  timeout : Option Nat
  dryRun : Bool
  deriving DecidableEq, Repr

/-- Nothing. -/
def Given.nothing : Given := ⟨none, none, none, none, none, false⟩

/-- Whether an option has been given. -/
def Given.has (g : Given) : Setting → Bool
  | .archiveUrl => g.archiveUrl.isSome
  | .toolDirectory => g.toolDirectory.isSome
  | .output => g.output.isSome
  | .timeout => g.timeout.isSome

/-- Gives an option its value. A path may not be empty. -/
def Given.set (g : Given) (o : Setting) (value : Text) : Except UsageFault Given :=
  match o with
  | .archiveUrl => .ok { g with archiveUrl := some value }
  | .toolDirectory =>
      if value.isEmpty then .error (.missingValue o)
      else .ok { g with toolDirectory := some value }
  | .output =>
      if value.isEmpty then .error (.missingValue o) else .ok { g with output := some value }
  | .timeout =>
      match seconds? value with
      | .ok n => .ok { g with timeout := some n }
      | .error e => .error (.badValue o value e)

/-- Gives an option its value for the first time. -/
def Given.setOnce (g : Given) (o : Setting) (value : Text) : Except UsageFault Given :=
  if g.has o then .error (.repeated o.label) else g.set o value

/-! ## Reading -/

/-- What ends the reading before the end of the arguments. -/
inductive Stop where
  | fault (e : UsageFault)
  /-- Help is asked for, in full or in short. -/
  | help (full : Bool)
  /-- The version of the program is asked for. -/
  | version
  deriving DecidableEq, Repr

/-- What is pending while the arguments are read: an option that waits for its value, or one
whose value is not yet examined. -/
inductive Pending where
  | nothing
  | waiting (o : Setting)
  | unexamined (o : Setting) (value : Text)
  deriving DecidableEq, Repr

/-- The state of the reading. -/
structure Reading where
  given : Given
  pending : Pending
  deriving DecidableEq, Repr

/-- Stops at a fault. -/
def stopAt {α : Type} : Except UsageFault α → Except Stop α
  | .ok a => .ok a
  | .error e => .error (.fault e)

/-- Examines what is pending. -/
def settle (r : Reading) : Except Stop Given :=
  match r.pending with
  | .nothing => .ok r.given
  | .waiting o => .error (.fault (.missingValue o))
  | .unexamined o v => stopAt (r.given.setOnce o v)

/-- Accepts an option, with its value or waiting for it. -/
def acceptSetting (r : Reading) (o : Setting) (value : Option Text) : Except Stop Reading :=
  match settle r with
  | .error e => .error e
  | .ok g =>
      match value with
      | none => .ok ⟨g, .waiting o⟩
      | some v => (stopAt (g.setOnce o v)).map (⟨·, .nothing⟩)

/-- Accepts a switch; `full` tells how much help is asked for. -/
def acceptSwitch (r : Reading) (f : Switch) (full : Bool) : Except Stop Reading :=
  match settle r with
  | .error e => .error e
  | .ok g =>
      match f with
      | .dryRun =>
          if g.dryRun then .error (.fault (.repeated f.label))
          else .ok ⟨{ g with dryRun := true }, .nothing⟩
      | .help => .error (.help full)
      | .version => .error .version

/-- Accepts the version; there is only one. -/
def acceptVersion (r : Reading) (a : Text) : Except Stop Reading :=
  if r.given.version.isSome then .error (.fault (.unexpected a))
  else
    match settle r with
    | .error e => .error e
    | .ok g => .ok ⟨{ g with version := some a }, .nothing⟩

/-- The name and the value of a long option. -/
def splitEquals (t : Text) : Text × Option Text :=
  match t.dropWhile (· != '=') with
  | _ :: value => (t.takeWhile (· != '='), some value)
  | [] => (t, none)

/-- Reads what stands behind two hyphens. -/
def readLong (r : Reading) (t : Text) : Except Stop Reading :=
  let (name, value) := splitEquals t
  match Setting.ofName? name, Switch.ofName? name with
  | some o, _ => acceptSetting r o value
  | none, some f =>
      match value with
      | some v => .error (.fault (.unneededValue f v))
      | none => acceptSwitch r f true
  | none, none => .error (.fault (.unexpected ("--".toList ++ name)))

/-- The value that is attached to a short option. -/
def attachedValue : Text → Option Text
  | [] => none
  | '=' :: v => some v
  | v => some v

/-- Reads what stands behind one hyphen. A short switch for help or version ends the reading,
so nothing behind it matters. -/
def readShort (r : Reading) : Text → Except Stop Reading
  | [] => .ok r
  | c :: t =>
      if c = 'o' then acceptSetting r .output (attachedValue t)
      else if c = 'h' then acceptSwitch r .help false
      else if c = 'V' then acceptSwitch r .version false
      else .error (.fault (.unexpected ['-', c]))

/-- Reads an argument that is no option. -/
def readPlain (r : Reading) (a : Text) : Except Stop Reading :=
  match r.pending with
  | .waiting o => .ok ⟨r.given, .unexamined o a⟩
  | _ => acceptVersion r a

/-- Reads an argument before `--`. -/
def readArgument (r : Reading) (a : Text) : Except Stop Reading :=
  match a with
  | '-' :: '-' :: t => readLong r t
  | '-' :: c :: t => readShort r (c :: t)
  | _ => readPlain r a

/-- Reads the arguments behind `--`. -/
def readVersions : Reading → List Text → Except Stop Reading
  | r, [] => .ok r
  | r, a :: rest =>
      match acceptVersion r a with
      | .ok r' => readVersions r' rest
      | .error e => .error e

/-- Reads arguments. -/
def readArguments : Reading → List Text → Except Stop Reading
  | r, [] => .ok r
  | r, a :: rest =>
      if a = "--".toList then readVersions r rest
      else
        match readArgument r a with
        | .ok r' => readArguments r' rest
        | .error e => .error e

/-! ## The environment -/

/-- The variables of the environment that the command reads. -/
structure Environment where
  archiveUrl : Option Text
  toolDirectory : Option Text
  deriving DecidableEq, Repr

/-- The names of the variables. -/
def archiveUrlVariable : Text := "STUDIO_ARCHIVE_URL".toList
def toolDirectoryVariable : Text := "STUDIO_VERSIONS_TOOL_DIR".toList

/-- Takes an option from the environment, unless it has been given. -/
def fromVariable (o : Setting) (value : Option Text) (g : Given) : Except UsageFault Given :=
  match value with
  | some v => if g.has o then .ok g else g.set o v
  | none => .ok g

/-- Completes what has been given from the environment. -/
def complete (env : Environment) (g : Given) : Except UsageFault Given :=
  match fromVariable .archiveUrl env.archiveUrl g with
  | .ok g' => fromVariable .toolDirectory env.toolDirectory g'
  | .error e => .error e

/-! ## The whole -/

/-- The options of an update, from what has been given. -/
def optionsOf (g : Given) : Except UsageFault Options :=
  match g.version with
  | none => .error .missingVersion
  | some v =>
      .ok
        { version := v
          archiveUrl := g.archiveUrl
          toolDirectory := g.toolDirectory
          output := g.output
          timeout := g.timeout.getD Web.defaultTimeout * 1000
          dryRun := g.dryRun }

/-- The options of an update, from the arguments and the environment. -/
def parse (env : Environment) (args : List Text) : Except Stop Options :=
  match readArguments ⟨.nothing, .nothing⟩ args with
  | .error e => .error e
  | .ok r =>
      match settle r with
      | .error e => .error e
      | .ok g =>
          match complete env g with
          | .error e => .error (.fault e)
          | .ok g' => stopAt (optionsOf g')

end StudioLookup.CommandLine
