import StudioLookup.Archive.Lookup
import StudioLookup.Files.Workspace
import StudioLookup.Version

set_option autoImplicit false

/-! # Updates

An update takes a version of the plugin, finds the release that belongs to it, and writes the
properties file. Its stages are, in this order: determine the path of the file, name the
release, look it up, and write the file or, in a dry run, print its text. The first stage that
fails ends the update; since only the last one has an effect, a failed update leaves everything
as it was.
-/

namespace StudioLookup

open Archive Web

/-- What an update is asked to do. -/
structure Options where
  /-- The version of the plugin. -/
  version : Text
  /-- The page to look in, if not the public archive. -/
  archiveUrl : Option Text
  /-- The directory of the tool; the file is beside it. -/
  toolDirectory : Option Text
  /-- The file to write, whatever the directory of the tool. -/
  output : Option Text
  /-- How long an answer is waited for, in milliseconds. -/
  timeout : Nat
  /-- Whether the text is printed and not written. -/
  dryRun : Bool
  deriving DecidableEq, Repr

namespace Options

/-- An update to a version, with nothing else asked for. -/
def ofVersion (version : Text) : Options :=
  ⟨version, none, none, none, Web.defaultTimeout * 1000, false⟩

/-- The page an update looks in. -/
def archive (o : Options) : Text := o.archiveUrl.getD Archive.publicUrl

end Options

/-- What a successful update has done. -/
structure Report where
  releaseName : Text
  release : Release
  outputPath : Text
  /-- Whether the file was written. -/
  written : Bool
  /-- Whether a file was there before. -/
  replaced : Bool
  deriving DecidableEq, Repr

/-- How an action ends: its result, the workspace after it, what it printed and the requests
that were made. -/
structure Outcome (σ α : Type) where
  result : Except Failure α
  workspace : σ
  printed : Text
  requests : List Request

namespace Outcome

/-- An action that fails without effect. -/
def failed {σ α : Type} (s : σ) (requests : List Request) (e : Failure) : Outcome σ α :=
  ⟨.error e, s, [], requests⟩

end Outcome

/-! ## The output path -/

/-- The directory of the tool, if none is given. -/
def defaultToolDirectory : Text := "development".toList

/-- The path of the file for options that are taken from the directory `cwd`. -/
def outputPathFrom (cwd : Text) (o : Options) : Text :=
  match o.output with
  | some output => resolvePath cwd output
  | none =>
      Properties.pathBeside <|
        match o.toolDirectory with
        | some dir => resolvePath cwd dir
        | none => appendPath cwd defaultToolDirectory

/-- The path of the file. The current directory is asked for in any case. -/
def outputPath {σ : Type} [Workspace σ] (s : σ) (o : Options) : Except Failure Text :=
  match Workspace.currentDirectory s with
  | .ok cwd => .ok (outputPathFrom cwd o)
  | .error e => .error e

/-! ## Writing the file -/

/-- The failure to write the file. -/
def writeFailure (path : Text) (e : Failure) : Failure :=
  .ofKind .io ("cannot write ".toList ++ path ++ ": ".toList ++ e.inLine)

/-- Writes the properties file, and tells whether a file was there before. -/
def writeProperties {σ : Type} [Workspace σ] (s : σ) (path version : Text) (release : Release) :
    Except Failure (Bool × σ) :=
  match Workspace.write s path (Properties.render version release) with
  | .ok s' => .ok (Workspace.holds s path, s')
  | .error e => .error (writeFailure path e)

/-- The last stage: prints the text in a dry run and writes the file otherwise. -/
def deliver {σ : Type} [Workspace σ] (s : σ) (path version name : Text) (dryRun : Bool)
    (requests : List Request) (release : Release) : Outcome σ Report :=
  if dryRun then
    ⟨.ok ⟨name, release, path, false, false⟩, s, Properties.render version release, requests⟩
  else
    match writeProperties s path version release with
    | .ok (replaced, s') => ⟨.ok ⟨name, release, path, true, replaced⟩, s', [], requests⟩
    | .error e => .failed s requests e

/-! ## The whole -/

/-- An update to a version whose release is looked up by `fetch`, with the file at `path`. -/
def runUpdate {σ : Type} [Workspace σ] (fetch : Text → Exchange Release) (s : σ)
    (path version : Text) (dryRun : Bool) : Outcome σ Report :=
  match releaseName version with
  | .error e => .failed s [] e
  | .ok name =>
      let found := fetch name
      match found.result with
      | .error e => .failed s found.requests e
      | .ok release => deliver s path version name dryRun found.requests release

/-- An update from the pages of a network. -/
def update {σ : Type} [Workspace σ] (net : Network) (s : σ) (o : Options) : Outcome σ Report :=
  match outputPath s o with
  | .error e => .failed s [] e
  | .ok path =>
      runUpdate (lookUp net (some Web.userAgent) o.archive) s path o.version o.dryRun

end StudioLookup
