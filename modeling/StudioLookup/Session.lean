import StudioLookup.Update

set_option autoImplicit false

/-! # Sessions

A session is a sequence of steps on one workspace and one network: updates and parts of them,
and between them events from outside, which change the workspace, and changes of the network.
Each step has an outcome, and the next step begins where it ends.
-/

namespace StudioLookup

open Web

/-- One step, `ε` being the events that may happen to the workspace. -/
inductive Step (ε : Type) where
  /-- The network changes. -/
  | serve (net : Network)
  /-- Something happens to the workspace. -/
  | outside (event : ε)
  | askDirectory
  | askHolds (path : Text)
  | writeText (path text : Text)
  | writeProperties (path version : Text) (release : Release)
  | askOutputPath (options : Options)
  | askSettings (options : Options)
  /-- An update whose lookup has the given result. -/
  | run (version path : Text) (dryRun : Bool) (found : Except Failure Release)
  | update (options : Options)

/-- What a step answers. -/
inductive Answer where
  | done
  | path (path : Text)
  | holds (b : Bool)
  | replaced (b : Bool)
  | settings (archiveUrl outputPath : Text)
  /-- The names that were looked up, and how the update ended. -/
  | ran (names : List Text) (report : Except Failure Report)
  | report (r : Report)

/-- A workspace and the network around it. -/
structure Session (σ : Type) where
  workspace : σ
  network : Network

namespace Session

/-- An outcome that leaves the workspace as it is. -/
def unchanged {σ : Type} (s : σ) (result : Except Failure Answer) : Outcome σ Answer :=
  ⟨result, s, [], []⟩

/-- The names that an update to a version looks up. -/
def namesAsked (version : Text) : List Text :=
  match releaseName version with
  | .ok name => [name]
  | .error _ => []

/-- The outcome of one step; `after` is what an event does to the workspace. -/
def outcome {σ ε : Type} [Workspace σ] (after : σ → ε → σ) (session : Session σ) :
    Step ε → Outcome σ Answer
  | .serve _ => unchanged session.workspace (.ok .done)
  | .outside event => unchanged (after session.workspace event) (.ok .done)
  | .askDirectory =>
      unchanged session.workspace
        ((Workspace.currentDirectory session.workspace).map Answer.path)
  | .askHolds path =>
      unchanged session.workspace (.ok (.holds (Workspace.holds session.workspace path)))
  | .writeText path text =>
      match Workspace.write session.workspace path text with
      | .ok s => unchanged s (.ok .done)
      | .error e => unchanged session.workspace (.error e)
  | .writeProperties path version release =>
      match StudioLookup.writeProperties session.workspace path version release with
      | .ok (replaced, s) => unchanged s (.ok (.replaced replaced))
      | .error e => unchanged session.workspace (.error e)
  | .askOutputPath options =>
      unchanged session.workspace ((outputPath session.workspace options).map Answer.path)
  | .askSettings options =>
      unchanged session.workspace
        ((outputPath session.workspace options).map (Answer.settings options.archive))
  | .run version path dryRun found =>
      let o := runUpdate (fun _ => .done found) session.workspace path version dryRun
      ⟨.ok (.ran (namesAsked version) o.result), o.workspace, o.printed, o.requests⟩
  | .update options =>
      let o := StudioLookup.update session.network session.workspace options
      ⟨o.result.map Answer.report, o.workspace, o.printed, o.requests⟩

/-- The session after one step. -/
def next {σ ε : Type} [Workspace σ] (after : σ → ε → σ) (session : Session σ) (step : Step ε) :
    Session σ :=
  { workspace := (session.outcome after step).workspace
    network := match step with
      | .serve net => net
      | _ => session.network }

/-- The outcomes of a sequence of steps. -/
def outcomes {σ ε : Type} [Workspace σ] (after : σ → ε → σ) :
    Session σ → List (Step ε) → List (Outcome σ Answer)
  | _, [] => []
  | session, step :: steps =>
      session.outcome after step :: outcomes after (session.next after step) steps

end Session

end StudioLookup
