import Mathlib.Logic.ExistsUnique
import StudioLookup.CommandLine.Command
import StudioLookup.Proofs.Files.Tree
import StudioLookup.Proofs.Properties
import StudioLookup.Proofs.Update.Course

set_option autoImplicit false

/-! # How the command ends

The command ends in one of five ways, and each of them fixes its exit code, what it prints, the
requests it has made and what has become of the tree (`Ends`). `run_endings` says that a run ends in
exactly one of the ways. Which one it is, is decided by the reading of the arguments, the result of
the update and whether it is a dry run (`Ends.eq_wayOf`). It can also be seen from the output: the
success message is printed only where the file was written, since no other text that is printed
begins with a line feed (`Ends.output_eq_iff`).
-/

namespace StudioLookup.CommandLine

open Web

/-- The ways in which the command may end. -/
inductive Way where
  | refused
  | informed
  | failed
  | printed
  | written
  deriving DecidableEq, Repr

/-- What each of the ways comes with. -/
inductive Ends (version : Text) (net : Network) (env : Environment) (t : Tree) (args : List Text) :
    Way → Ending Tree → Prop where
  /-- The arguments are refused. -/
  | refused {e : UsageFault} :
      parse env args = .error (.fault e) →
      Ends version net env t args .refused ⟨2, [], e.message, t, []⟩
  /-- Help is printed, in full or in short. -/
  | help {full : Bool} :
      parse env args = .error (.help full) →
      Ends version net env t args .informed
        ⟨0, if full then fullHelp env else shortHelp env, [], t, []⟩
  /-- The version of the program is printed. -/
  | version :
      parse env args = .error .version →
      Ends version net env t args .informed ⟨0, versionLine version, [], t, []⟩
  /-- The update fails, and nothing is printed but its failure. -/
  | failed {o : Options} {e : Failure} :
      parse env args = .ok o →
      (update net t o).result = .error e →
      Ends version net env t args .failed
        ⟨1, [], "Error: ".toList ++ e.report ++ ['\n'], t, (update net t o).requests⟩
  /-- The text of the file is printed. -/
  | printed {o : Options} {r : Report} :
      parse env args = .ok o →
      (update net t o).result = .ok r →
      o.dryRun = true →
      Ends version net env t args .printed
        ⟨0, Properties.render o.version r.release, [], t, (update net t o).requests⟩
  /-- The file is written, and nothing else is different. -/
  | written {o : Options} {r : Report} {t' : Tree} :
      parse env args = .ok o →
      (update net t o).result = .ok r →
      o.dryRun = false →
      outputPath t o = .ok r.outputPath →
      t.DiffersAt r.outputPath (Properties.render o.version r.release) t' →
      Ends version net env t args .written ⟨0, successMessage, [], t', (update net t o).requests⟩

section

variable {version : Text} {net : Network} {env : Environment} {t : Tree} {args : List Text}

/-! ## One of the ways -/

theorem ends_failed {o : Options} {requests : List Request} {e : Failure}
    (hparse : parse env args = .ok o) (hx : update net t o = .failed t requests e) :
    Ends version net env t args .failed (ended (.failed t requests e)) := by
  have hends : Ends version net env t args .failed _ :=
    .failed hparse (by rw [hx]; rfl : (update net t o).result = .error e)
  rw [hx] at hends
  exact hends

/-- Each course of an update is one of the ways. -/
theorem exists_ends_of_parse {o : Options} (hparse : parse env args = .ok o) :
    ∃ way, Ends version net env t args way (ended (update net t o)) := by
  rcases update_course net t o with ⟨e, -, hx⟩ | ⟨path, hpath, hcourse⟩
  · rw [hx]
    exact ⟨.failed, ends_failed hparse hx⟩
  · generalize hx : update net t o = x at hcourse
    cases hcourse with
    | failed requests e => exact ⟨.failed, ends_failed hparse hx⟩
    | printed requests hname hdry =>
        have hends : Ends version net env t args .printed _ := .printed hparse (by rw [hx]) hdry
        rw [hx] at hends
        refine ⟨.printed, ?_⟩
        simpa [ended, reportMessage] using hends
    | written requests hname hdry hwrite =>
        have hends : Ends version net env t args .written _ :=
          .written hparse (by rw [hx]) hdry hpath (Tree.differsAt_of_write hwrite)
        rw [hx] at hends
        exact ⟨.written, hends⟩

theorem exists_ends (version : Text) (net : Network) (env : Environment) (t : Tree)
    (args : List Text) :
    ∃ way, Ends version net env t args way (run version net env t args) := by
  unfold run
  cases hparse : parse env args with
  | error stop =>
      cases stop with
      | fault e => exact ⟨.refused, .refused hparse⟩
      | help full => exact ⟨.informed, .help hparse⟩
      | version => exact ⟨.informed, .version hparse⟩
  | ok o => exact exists_ends_of_parse hparse

/-! ## No more than one -/

/-- The way that is decided by the arguments, the result of the update and the dry run. -/
def wayOf (net : Network) (env : Environment) (t : Tree) (args : List Text) : Way :=
  match parse env args with
  | .error (.fault _) => .refused
  | .error _ => .informed
  | .ok o =>
      match (update net t o).result with
      | .error _ => .failed
      | .ok _ => if o.dryRun then .printed else .written

theorem Ends.eq_wayOf {way : Way} {x : Ending Tree} (h : Ends version net env t args way x) :
    way = wayOf net env t args := by
  cases h with
  | refused hparse => rw [wayOf, hparse]
  | help hparse => rw [wayOf, hparse]
  | version hparse => rw [wayOf, hparse]
  | failed hparse hresult => simp only [wayOf, hparse, hresult]
  | printed hparse hresult hdry => simp only [wayOf, hparse, hresult, hdry, if_true]
  | written hparse hresult hdry => simp [wayOf, hparse, hresult, hdry]

/-! ## The success message -/

theorem head?_successMessage : successMessage.head? = some '\n' := by
  unfold successMessage
  rw [String.toList_ofList]
  rfl

theorem head?_append_of_eq {a b : Text} {c : Char} (h : a.head? = some c) :
    (a ++ b).head? = some c := by
  rw [List.head?_append, h]
  rfl

theorem head?_summary : summary.head? = some 's' := by
  unfold summary
  rw [String.toList_ofList]
  rfl

theorem head?_shortHelp (env : Environment) : (shortHelp env).head? = some 's' := by
  unfold shortHelp
  simp only [List.append_assoc]
  exact head?_append_of_eq head?_summary

theorem head?_fullHelp (env : Environment) : (fullHelp env).head? = some 's' := by
  unfold fullHelp
  simp only [List.append_assoc]
  exact head?_append_of_eq head?_summary

theorem head?_versionLine (version : Text) : (versionLine version).head? = some 's' := by
  unfold versionLine
  rw [List.append_assoc]
  exact head?_append_of_eq (by rw [String.toList_ofList]; rfl)

theorem ne_successMessage {u : Text} {c : Char} (hu : u.head? = some c) (hc : c ≠ '\n') :
    u ≠ successMessage := by
  rintro rfl
  rw [head?_successMessage] at hu
  exact hc (Option.some.inj hu).symm

theorem successMessage_ne_nil : successMessage ≠ [] := by
  intro h
  have hhead := head?_successMessage
  rw [h] at hhead
  cases hhead

/-- The success message is the output of one of the ways only. -/
theorem Ends.output_eq_iff {way : Way} {x : Ending Tree} (h : Ends version net env t args way x) :
    x.output = successMessage ↔ way = .written := by
  cases h with
  | refused hparse => simp [successMessage_ne_nil]
  | @help full hparse =>
      have hhelp : (if full then fullHelp env else shortHelp env) ≠ successMessage := by
        cases full with
        | true => exact ne_successMessage (head?_fullHelp env) (by decide)
        | false => exact ne_successMessage (head?_shortHelp env) (by decide)
      simp [hhelp]
  | version hparse => simp [ne_successMessage (head?_versionLine version) (by decide)]
  | failed hparse hresult => simp [successMessage_ne_nil]
  | @printed o r hparse hresult hdry =>
      have hhead := Properties.head?_render o.version r.release
      simp [ne_successMessage hhead (by decide)]
  | written hparse hresult hdry => simp

/-- A way with an exit code other than zero prints no output and leaves the tree as it was. -/
theorem Ends.without_effect {way : Way} {x : Ending Tree} (h : Ends version net env t args way x)
    (hcode : x.exitCode ≠ 0) : x.output = [] ∧ x.workspace = t := by
  cases h with
  | refused hparse => exact ⟨rfl, rfl⟩
  | help hparse => exact absurd rfl hcode
  | version hparse => exact absurd rfl hcode
  | failed hparse hresult => exact ⟨rfl, rfl⟩
  | printed hparse hresult hdry => exact absurd rfl hcode
  | written hparse hresult hdry => exact absurd rfl hcode

end

/-- **The command ends in exactly one of its ways.** Built as any version, it is refused, informs,
fails, prints or writes, for all arguments, environments, trees and networks, with the exit code,
the output, the requests and the tree of that way. The success message is printed exactly when the
file was written, and an exit code other than zero comes without output and without a change to the
tree. -/
theorem run_endings (version : Text) (net : Network) (env : Environment) (t : Tree)
    (args : List Text) :
    (∃! way, Ends version net env t args way (run version net env t args)) ∧
      ((run version net env t args).output = successMessage ↔
        Ends version net env t args .written (run version net env t args)) ∧
      ((run version net env t args).exitCode ≠ 0 →
        (run version net env t args).output = [] ∧ (run version net env t args).workspace = t) := by
  obtain ⟨way, hends⟩ := exists_ends version net env t args
  refine ⟨⟨way, hends, fun way' hends' => ?_⟩, ?_, hends.without_effect⟩
  · rw [hends.eq_wayOf, hends'.eq_wayOf]
  · rw [hends.output_eq_iff]
    constructor
    · rintro rfl
      exact hends
    · intro hwritten
      rw [hends.eq_wayOf, hwritten.eq_wayOf]

end StudioLookup.CommandLine
