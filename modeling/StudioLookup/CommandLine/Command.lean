import StudioLookup.CommandLine.Help

set_option autoImplicit false

/-! # The command

The command reads its arguments and updates the properties file. It ends in one of five ways:
the arguments are refused, help or the version is printed, the update fails, a dry run prints
the text of the file, or the file is written, which is reported with advice on what to do
next. The version that is printed is not the command's to know: it is set when the program is
built.
-/

namespace StudioLookup.CommandLine

open Web

/-- How the command ends. -/
structure Ending (σ : Type) where
  exitCode : Nat
  output : Text
  errors : Text
  workspace : σ
  requests : List Request

/-- A word of the advice in green. -/
def green (t : String) : Text := "\x1b[92m".toList ++ t.toList ++ "\x1b[0m".toList

/-- What is printed when the file has been written. -/
def successMessage : Text :=
  "\nSuccessfully updated studio_versions.properties.\nRun ".toList ++ green "./studiow" ++
    " and ".toList ++ green "./gradlew assembleDebug" ++
    (" to verify nothing broke!\n\nNote: you may get warnings about gradle being unable to " ++
      "find artifacts: this is fine; run\n").toList ++
    green "./development/importMaven/import_maven_artifacts.py --name=<missing_artifact>" ++
    ("\nto add them to the prebuilts directory - you will need to commit these as well. " ++
      "If this command\nfails, appending ").toList ++
    green ":linux" ++ " to the end of the artifact name sometimes works.\n\n".toList

/-- What is printed when an update fails. -/
def failureMessage (e : Failure) : Text := "Error: ".toList ++ e.report ++ ['\n']

/-- What the command prints after a successful update, besides the text of a dry run. -/
def reportMessage (r : Report) : Text := if r.written then successMessage else []

/-- How the command ends when the reading of its arguments is stopped. -/
def stopped {σ : Type} (version : Text) (env : Environment) (s : σ) : Stop → Ending σ
  | .fault e => ⟨2, [], e.message, s, []⟩
  | .help full => ⟨0, if full then fullHelp env else shortHelp env, [], s, []⟩
  | .version => ⟨0, versionLine version, [], s, []⟩

/-- How the command ends after an update. -/
def ended {σ : Type} (o : Outcome σ Report) : Ending σ :=
  match o.result with
  | .ok r => ⟨0, o.printed ++ reportMessage r, [], o.workspace, o.requests⟩
  | .error e => ⟨1, o.printed, failureMessage e, o.workspace, o.requests⟩

/-- The command, built as the given version. -/
def run {σ : Type} [Workspace σ] (version : Text) (net : Network) (env : Environment) (s : σ)
    (args : List Text) : Ending σ :=
  match parse env args with
  | .error stop => stopped version env s stop
  | .ok options => ended (update net s options)

end StudioLookup.CommandLine
