import StudioLookup.CommandLine.Arguments

set_option autoImplicit false

/-! # Help

The help of the command, in short and in full. The short form has one line for each option; the
full form explains the command and gives each option a paragraph. Both show what the
environment sets.
-/

namespace StudioLookup.CommandLine

/-- An entry of the help: how an option is written, what it does, and what it is when it is not
given. -/
structure Entry where
  label : Text
  meaning : Text
  note : Option Text

/-- The note on the variable an option is taken from, with its value. -/
def variableNote (name : Text) (value : Option Text) : Text :=
  "[env: ".toList ++ name ++ '=' :: value.getD [] ++ [']']

/-- What the help says of help. -/
def helpMeaning (full : Bool) : Text :=
  if full then "Print help (see a summary with '-h')".toList
  else "Print help (see more with '--help')".toList

/-- The entries of the options. -/
def optionEntries (env : Environment) (full : Bool) : List Entry :=
  [⟨"      --archive-url <URL>".toList, "Release archive index URL".toList,
      some (variableNote archiveUrlVariable env.archiveUrl)⟩,
    ⟨"      --tool-dir <PATH>".toList,
      ("Directory of this tool; the file is written to its sibling ../buildSrc " ++
        "(defaults to ./development)").toList,
      some (variableNote toolDirectoryVariable env.toolDirectory)⟩,
    ⟨"  -o, --output <PATH>".toList,
      "Write the properties to this file instead (overrides --tool-dir)".toList, none⟩,
    ⟨"      --timeout <SECS>".toList, "Per-request timeout in seconds".toList,
      some ("[default: ".toList ++ Text.decimal Web.defaultTimeout ++ [']'])⟩,
    ⟨"      --dry-run".toList, "Print the properties instead of writing them".toList, none⟩,
    ⟨"  -h, --help".toList, helpMeaning full, none⟩,
    ⟨"  -V, --version".toList, "Print version".toList, none⟩]

/-- A text whose further lines are indented. -/
def indented (columns : Nat) (t : Text) : Text :=
  Text.join ('\n' :: List.replicate columns ' ') (Text.pieces '\n' t)

/-- The column at which the short help explains the options. -/
def shortColumn : Nat := 27

/-- The column at which the full help explains them. -/
def fullColumn : Nat := 10

/-- An entry on one line. -/
def Entry.shortText (e : Entry) : Text :=
  e.label ++ List.replicate (shortColumn - e.label.length) ' ' ++
    indented shortColumn (e.meaning ++ (match e.note with
      | some n => ' ' :: n
      | none => [])) ++ ['\n']

/-- An entry in a paragraph. -/
def Entry.fullText (e : Entry) : Text :=
  e.label ++ '\n' :: List.replicate fullColumn ' ' ++
    indented fullColumn (e.meaning ++ (match e.note with
      | some n => '\n' :: '\n' :: n
      | none => [])) ++ ['\n']

/-- The first line of the help. -/
def summary : Text := "studio-versions - Android Studio version updater\n\n".toList

/-- How the command is written. -/
def usage : Text :=
  "Usage: studio-versions [OPTIONS] <AGP_VERSION>\n\nArguments:\n  <AGP_VERSION>".toList

/-- What the version is. -/
def versionMeaning : Text := "The AGP version, e.g. 3.4.0-beta03\n\nOptions:\n".toList

/-- The help in short. -/
def shortHelp (env : Environment) : Text :=
  summary ++ usage ++ "  ".toList ++ versionMeaning ++
    (optionEntries env false).flatMap Entry.shortText

/-- What the command is for. -/
def explanation : Text :=
  ("Scrapes the Android Studio release archive to find the Studio build matching a given " ++
    "Android Gradle Plugin version, then updates studio_versions.properties.\n\n" ++
    "Examples: studio-versions 3.4.0-beta03\n\n").toList

/-- The help in full. -/
def fullHelp (env : Environment) : Text :=
  summary ++ explanation ++ usage ++ '\n' :: List.replicate fullColumn ' ' ++ versionMeaning ++
    Text.join ['\n'] ((optionEntries env true).map Entry.fullText)

/-- The line that names the program and the version it was built as. -/
def versionLine (version : Text) : Text := "studio-versions ".toList ++ version ++ ['\n']

end StudioLookup.CommandLine
