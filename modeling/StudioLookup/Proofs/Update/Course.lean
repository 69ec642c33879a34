import StudioLookup.Proofs.Files.Store
import StudioLookup.Update

set_option autoImplicit false

/-! # How an update ends

There are three ways for an update whose path is known to end (`Course`): it fails and leaves the
workspace as it is, it prints the text of the file, or it writes it. `runUpdate_course` shows that
there is no other, whatever the lookup answers, and `update_course` adds the failure to determine
the path. What follows for all updates is proved by the three cases and without another look at
the stages: on a store an update is all or nothing (`update_allOrNothing`).
-/

namespace StudioLookup

open Archive Web

section

variable {σ : Type} [Workspace σ] {s : σ} {path version : Text} {dryRun : Bool}

/-- The ways in which an update to `version` with the file at `path` may end. -/
inductive Course (s : σ) (path version : Text) (dryRun : Bool) : Outcome σ Report → Prop where
  /-- Some stage fails, and nothing has happened but requests. -/
  | failed (requests : List Request) (e : Failure) :
      Course s path version dryRun (.failed s requests e)
  /-- The text is printed, and nothing is written. -/
  | printed {name : Text} {release : Release} (requests : List Request) :
      releaseName version = .ok name → dryRun = true →
      Course s path version dryRun
        ⟨.ok ⟨name, release, path, false, false⟩, s, Properties.render version release, requests⟩
  /-- The text is written, and nothing is printed. -/
  | written {name : Text} {release : Release} {s' : σ} (requests : List Request) :
      releaseName version = .ok name → dryRun = false →
      Workspace.write s path (Properties.render version release) = .ok s' →
      Course s path version dryRun
        ⟨.ok ⟨name, release, path, true, Workspace.holds s path⟩, s', [], requests⟩

/-- A file that is written holds the rendered text, and the answer is about the time before. -/
theorem writeProperties_eq_ok_iff {release : Release} {replaced : Bool} {s' : σ} :
    writeProperties s path version release = .ok (replaced, s') ↔
      Workspace.write s path (Properties.render version release) = .ok s' ∧
        replaced = Workspace.holds s path := by
  unfold writeProperties
  cases Workspace.write s path (Properties.render version release) with
  | ok s'' =>
      constructor
      · intro h
        cases h
        exact ⟨rfl, rfl⟩
      · rintro ⟨h, rfl⟩
        cases h
        rfl
  | error e =>
      constructor
      · intro h
        cases h
      · rintro ⟨h, -⟩
        cases h

/-- The last stage fails, prints or writes, and hands on the requests as they are. -/
theorem deliver_cases (s : σ) (path version name : Text) (dryRun : Bool) (release : Release) :
    (∃ e, ∀ requests, deliver s path version name dryRun requests release =
        .failed s requests e) ∨
      (dryRun = true ∧ ∀ requests, deliver s path version name dryRun requests release =
        ⟨.ok ⟨name, release, path, false, false⟩, s, Properties.render version release,
          requests⟩) ∨
      (dryRun = false ∧ ∃ s',
        Workspace.write s path (Properties.render version release) = .ok s' ∧
          ∀ requests, deliver s path version name dryRun requests release =
            ⟨.ok ⟨name, release, path, true, Workspace.holds s path⟩, s', [], requests⟩) := by
  unfold deliver
  cases dryRun with
  | true => exact Or.inr (Or.inl ⟨rfl, fun _ => rfl⟩)
  | false =>
      cases hw : writeProperties s path version release with
      | error e => exact Or.inl ⟨e, fun _ => rfl⟩
      | ok written =>
          obtain ⟨hwrite, hreplaced⟩ := writeProperties_eq_ok_iff.mp hw
          refine Or.inr (Or.inr ⟨rfl, written.2, hwrite, fun requests => ?_⟩)
          rw [← hreplaced]
          rfl

theorem deliver_course {name : Text} (requests : List Request) (release : Release)
    (hname : releaseName version = .ok name) :
    Course s path version dryRun (deliver s path version name dryRun requests release) := by
  rcases deliver_cases s path version name dryRun release with
    ⟨e, he⟩ | ⟨hdry, hprinted⟩ | ⟨hdry, s', hwrite, hwritten⟩
  · rw [he]
    exact .failed requests e
  · rw [hprinted]
    exact .printed requests hname hdry
  · rw [hwritten]
    exact .written requests hname hdry hwrite

/-- Whatever the lookup answers, an update takes one of the three courses. -/
theorem runUpdate_course (fetch : Text → Exchange Release) :
    Course s path version dryRun (runUpdate fetch s path version dryRun) := by
  unfold runUpdate
  cases hname : releaseName version with
  | error e => exact .failed [] e
  | ok name =>
      dsimp only
      cases (fetch name).result with
      | error e => exact .failed _ e
      | ok release => exact deliver_course _ release hname

/-- The release in the report of an update is the one that was looked up, under its name. -/
theorem release_of_runUpdate {fetch : Text → Exchange Release} {r : Report}
    (h : (runUpdate fetch s path version dryRun).result = .ok r) :
    (fetch r.releaseName).result = .ok r.release := by
  unfold runUpdate at h
  cases hname : releaseName version with
  | error e =>
      rw [hname] at h
      cases h
  | ok name =>
      rw [hname] at h
      dsimp only at h
      cases hfound : (fetch name).result with
      | error e =>
          rw [hfound] at h
          cases h
      | ok release =>
          rw [hfound] at h
          dsimp only at h
          rcases deliver_cases s path version name dryRun release with
            ⟨e, he⟩ | ⟨-, hprinted⟩ | ⟨-, s', -, hwritten⟩
          · rw [he] at h
            cases h
          · rw [hprinted] at h
            cases h
            exact hfound
          · rw [hwritten] at h
            cases h
            exact hfound

/-- What the report of an update says is what the update was asked for and has found. -/
theorem Course.report_eq {x : Outcome σ Report} (h : Course s path version dryRun x) {r : Report}
    (hr : x.result = .ok r) :
    releaseName version = .ok r.releaseName ∧ r.outputPath = path ∧ r.written = !dryRun ∧
      r.replaced = (!dryRun && Workspace.holds s path) := by
  cases h with
  | failed requests e => cases hr
  | printed requests hname hdry =>
      cases hr
      subst hdry
      exact ⟨hname, rfl, rfl, rfl⟩
  | written requests hname hdry _ =>
      cases hr
      subst hdry
      exact ⟨hname, rfl, rfl, rfl⟩

/-- An update fails to determine its path or takes one of the three courses with it. -/
theorem update_course (net : Network) (s : σ) (o : Options) :
    (∃ e, outputPath s o = .error e ∧ update net s o = .failed s [] e) ∨
      ∃ path, outputPath s o = .ok path ∧ Course s path o.version o.dryRun (update net s o) := by
  unfold update
  cases outputPath s o with
  | error e => exact Or.inl ⟨e, rfl, rfl⟩
  | ok path => exact Or.inr ⟨path, rfl, runUpdate_course _⟩

end

/-- **An update is all or nothing.** It fails, and then the store is as before and nothing is
printed; or it reports on the release and the path of its options, and has then either printed
the text of the file and left the store as it was, or set exactly the file at its path. -/
theorem update_allOrNothing (net : Network) (s : Store) (o : Options) :
    (∃ e, (update net s o).result = .error e ∧ (update net s o).workspace = s ∧
        (update net s o).printed = []) ∨
      ∃ report, (update net s o).result = .ok report ∧
        releaseName o.version = .ok report.releaseName ∧
        outputPath s o = .ok report.outputPath ∧
        ((o.dryRun = true ∧ (update net s o).workspace = s ∧
            (update net s o).printed = Properties.render o.version report.release ∧
            report.written = false ∧ report.replaced = false) ∨
          (o.dryRun = false ∧
            (∀ p, (update net s o).workspace.text? p =
              if p = report.outputPath then some (Properties.render o.version report.release)
              else s.text? p) ∧
            (update net s o).workspace.directory = s.directory ∧
            (update net s o).workspace.refusals = s.refusals ∧
            (update net s o).printed = [] ∧ report.written = true ∧
            (report.replaced = true ↔ ∃ text, s.text? report.outputPath = some text))) := by
  rcases update_course net s o with ⟨e, -, hfailed⟩ | ⟨path, hpath, hcourse⟩
  · rw [hfailed]
    exact Or.inl ⟨e, rfl, rfl, rfl⟩
  · generalize update net s o = x at hcourse ⊢
    cases hcourse with
    | failed requests e => exact Or.inl ⟨e, rfl, rfl, rfl⟩
    | printed requests hname hdry =>
        exact Or.inr ⟨_, rfl, hname, hpath, Or.inl ⟨hdry, rfl, rfl, rfl, rfl⟩⟩
    | written requests hname hdry hwrite =>
        obtain ⟨-, rfl⟩ := Store.write_eq_ok_iff.mp hwrite
        refine Or.inr ⟨_, rfl, hname, hpath, Or.inr ⟨hdry, ?_, rfl, rfl, rfl, rfl, ?_⟩⟩
        · intro p
          exact s.text?_put_eq path _ p
        · show (s.text? path).isSome = true ↔ _
          exact Option.isSome_iff_exists

end StudioLookup
