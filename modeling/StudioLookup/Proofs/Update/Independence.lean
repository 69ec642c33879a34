import StudioLookup.Files.Store
import StudioLookup.Proofs.Update.Stages

set_option autoImplicit false

/-! # Two updates that ask for the same

Where the file goes, whether it is written at all, and what the workspace holds do not matter for
what an update looks up. The module compares the updates of two workspaces, which need not even be
of one type, whose options name the same version and the same archive (`SameQuestion`).

The two go through the same stages: a stage of the one is a stage of the other with another path
(`stage_eq_seek`), so whatever stages the one passes, the other passes as well, and with the same
requests (`Passes.movedTo`). They can only differ in the last stage, where both have the same text
to print or to write (`Output`). The main theorem is `update_same_question`.
-/

namespace StudioLookup

open Archive Web

/-- Options that ask for the release of one version in one archive. -/
structure SameQuestion (o o' : Options) : Prop where
  version_eq : o.version = o'.version
  archiveUrl_eq : o.archiveUrl = o'.archiveUrl
  timeout_eq : o.timeout = o'.timeout

theorem SameQuestion.archive_eq {o o' : Options} (h : SameQuestion o o') :
    o.archive = o'.archive :=
  congrArg (·.getD publicUrl) h.archiveUrl_eq

theorem SameQuestion.refl (o : Options) : SameQuestion o o := ⟨rfl, rfl, rfl⟩

/-! ## Searching -/

namespace Progress

/-- The same progress of an update that has another path. -/
def movedTo (path : Text) : Progress → Progress
  | .started => .started
  | .located _ => .located path
  | .named _ name => .named path name
  | .opened _ name page => .opened path name page
  | .framed _ name frame => .framed path name frame
  | .listed _ name list => .listed path name list
  | .found _ name release => .found path name release

/-- Whether all that was to be found is found, and only the last stage is left. -/
def IsFound (p : Progress) : Prop := ∃ path name release, p = .found path name release

theorem isFound_of_movedTo {path : Text} {p : Progress} (h : (p.movedTo path).IsFound) :
    p.IsFound := by
  obtain ⟨path', name, release, hp⟩ := h
  cases p with
  | found path' name release => exact ⟨path', name, release, rfl⟩
  | _ => cases hp

end Progress

/-- The stages that lead from one progress to another, with the requests they make. None of them
touches the workspace or prints. -/
inductive Passes {σ : Type} [Workspace σ] (net : Network) (o : Options) (s : σ) :
    Progress → List Request → Progress → Prop where
  | here (p : Progress) : Passes net o s p [] p
  | onward {p q r : Progress} {first later : List Request} :
      stage net o s p = ⟨.ok (.inl q), s, [], first⟩ → Passes net o s q later r →
      Passes net o s p (first ++ later) r

/-- An update that fails in a stage before the last, having made the requests. -/
def FailsSearching {σ : Type} [Workspace σ] (net : Network) (o : Options) (s : σ)
    (requests : List Request) (e : Failure) : Prop :=
  ∃ p first last, Passes net o s .started first p ∧ ¬ p.IsFound ∧
    stage net o s p = ⟨.error e, s, [], last⟩ ∧ requests = first ++ last

/-! ## Single stages -/

/-- A stage of the search hands on what it has found. -/
theorem seek_eq_inl_iff {σ α : Type} {s s' : σ} {x : Exchange α} {next : α → Progress}
    {q : Progress} {printed : Text} {requests : List Request} :
    seek s x next = ⟨.ok (.inl q), s', printed, requests⟩ ↔
      (∃ a, x.result = .ok a ∧ next a = q) ∧ s = s' ∧ [] = printed ∧ x.requests = requests := by
  unfold seek
  cases x.result with
  | error e => simp [Except.map]
  | ok a => simp [Except.map]

theorem seek_eq_error_iff {σ α : Type} {s s' : σ} {x : Exchange α} {next : α → Progress}
    {e : Failure} {printed : Text} {requests : List Request} :
    seek s x next = ⟨.error e, s', printed, requests⟩ ↔
      x.result = .error e ∧ s = s' ∧ [] = printed ∧ x.requests = requests := by
  unfold seek
  cases x.result with
  | error e' => simp [Except.map]
  | ok a => simp [Except.map]

/-- A stage of the search does not end the update. -/
theorem seek_ne_inr {σ α : Type} {s s' : σ} {x : Exchange α} {next : α → Progress} {r : Report}
    {printed : Text} {requests : List Request} :
    seek s x next ≠ ⟨.ok (.inr r), s', printed, requests⟩ := by
  unfold seek
  cases x.result with
  | error e => simp [Except.map]
  | ok a => simp [Except.map]

/-- How an update ends whose last stage has a text for the file: a dry run prints it, and
otherwise the text is written, or the workspace refuses it. -/
inductive Output {σ : Type} [Workspace σ] (s : σ) (path name : Text) (release : Release)
    (text : Text) (requests : List Request) : Bool → Outcome σ Report → Prop where
  | printed : Output s path name release text requests true
      ⟨.ok ⟨name, release, path, false, false⟩, s, text, requests⟩
  | written {s' : σ} : Workspace.write s path text = .ok s' →
      Output s path name release text requests false
        ⟨.ok ⟨name, release, path, true, Workspace.holds s path⟩, s', [], requests⟩
  | refused {e : Failure} : Workspace.write s path text = .error e →
      Output s path name release text requests false (.failed s requests (writeFailure path e))

namespace Output

variable {σ : Type} [Workspace σ] {s : σ} {path name text : Text} {release : Release}
  {requests : List Request} {dryRun : Bool} {x : Outcome σ Report}

theorem requests_eq (h : Output s path name release text requests dryRun x) :
    x.requests = requests := by
  cases h with
  | printed => rfl
  | written _ => rfl
  | refused _ => rfl

theorem report_eq (h : Output s path name release text requests dryRun x) {r : Report}
    (hr : x.result = .ok r) : r.releaseName = name ∧ r.release = release := by
  cases h with
  | printed =>
      cases hr
      exact ⟨rfl, rfl⟩
  | written _ =>
      cases hr
      exact ⟨rfl, rfl⟩
  | refused _ => cases hr

/-- A dry run prints the text, and does not fail. -/
theorem printed_eq (h : Output s path name release text requests true x) : x.printed = text := by
  cases h
  rfl

theorem ne_error (h : Output s path name release text requests true x) (e : Failure) :
    x.result ≠ .error e := by
  cases h
  nofun

/-- An update that is no dry run and succeeds has written the text. -/
theorem write_eq (h : Output s path name release text requests false x) {r : Report}
    (hr : x.result = .ok r) : Workspace.write s r.outputPath text = .ok x.workspace := by
  cases h with
  | written hwrite =>
      cases hr
      exact hwrite
  | refused _ => cases hr

end Output

section

variable {σ τ : Type} [Workspace σ] [Workspace τ] {net : Network} {o o' : Options} {s : σ} {t : τ}

theorem stage_started (net : Network) (o : Options) (s : σ) :
    stage net o s .started = seek s (.done (outputPath s o)) .located := rfl

/-- A stage of the search looks for the same in both updates, for its own path. -/
theorem stage_eq_seek (net : Network) (s : σ) (t : τ) (h : SameQuestion o o') (path : Text)
    {p : Progress} (hstarted : p ≠ .started) (hfound : ¬ p.IsFound) :
    ∃ (α : Type) (x : Exchange α) (next : α → Progress),
      stage net o s p = seek s x next ∧
        stage net o' t (p.movedTo path) = seek t x (fun a => (next a).movedTo path) ∧
          ∀ a, next a ≠ .started := by
  cases p with
  | started => exact absurd rfl hstarted
  | located path' =>
      refine ⟨Text, .done (releaseName o.version), .named path', rfl, ?_, fun _ => nofun⟩
      rw [h.version_eq]
      rfl
  | named path' name =>
      refine ⟨Text, getText net (some userAgent) o.archive, .opened path' name, rfl, ?_,
        fun _ => nofun⟩
      rw [h.archive_eq]
      rfl
  | opened path' name page =>
      refine ⟨Text, .done (frameUrl page o.archive), .framed path' name, rfl, ?_, fun _ => nofun⟩
      rw [h.archive_eq]
      rfl
  | framed path' name frame =>
      exact ⟨Text, getText net (some userAgent) frame, .listed path' name, rfl, rfl, fun _ => nofun⟩
  | listed path' name list =>
      exact ⟨Release, .done (findRelease list name), .found path' name, rfl, rfl, fun _ => nofun⟩
  | found path' name release => exact absurd ⟨path', name, release, rfl⟩ hfound

/-- Every stage but the last belongs to the search. -/
theorem exists_seek (net : Network) (o : Options) (s : σ) {p : Progress} (hfound : ¬ p.IsFound) :
    ∃ (α : Type) (x : Exchange α) (next : α → Progress), stage net o s p = seek s x next := by
  by_cases hstarted : p = .started
  · subst hstarted
    exact ⟨Text, _, .located, stage_started net o s⟩
  · obtain ⟨α, x, next, hstage, -⟩ :=
      stage_eq_seek net s s (SameQuestion.refl o) [] hstarted hfound
    exact ⟨α, x, next, hstage⟩

theorem not_isFound_of_stage {p q : Progress} {s' : σ} {printed : Text} {requests : List Request}
    (h : stage net o s p = ⟨.ok (.inl q), s', printed, requests⟩) : ¬ p.IsFound := by
  rintro ⟨path, name, release, rfl⟩
  have hresult : (deliver s path o.version name o.dryRun [] release).result.map Sum.inr =
      Except.ok (Sum.inl q) := congrArg Outcome.result ((stage_found ..).symm.trans h)
  cases hr : (deliver s path o.version name o.dryRun [] release).result with
  | error e =>
      rw [hr] at hresult
      cases hresult
  | ok r =>
      rw [hr] at hresult
      cases hresult

theorem isFound_of_stage {p : Progress} {r : Report} {s' : σ} {printed : Text}
    {requests : List Request} (h : stage net o s p = ⟨.ok (.inr r), s', printed, requests⟩) :
    p.IsFound := by
  by_cases hfound : p.IsFound
  · exact hfound
  · obtain ⟨α, x, next, hseek⟩ := exists_seek net o s hfound
    exact absurd (hseek.symm.trans h) seek_ne_inr

/-! ## Sequences of stages -/

/-- A run goes on from where its stages have led to. -/
theorem Passes.run {p q : Progress} {requests : List Request} {x : Outcome σ Report}
    (h : Passes net o s p requests q) (hx : Run net o s q x) :
    Run net o s p (x.following [] requests) := by
  induction h with
  | here p => exact hx
  | onward hstage _ ih =>
      have hrun := Run.passed hstage (ih hx)
      simpa only [Outcome.following, List.nil_append, List.append_assoc] using hrun

theorem FailsSearching.update_eq {requests : List Request} {e : Failure}
    (h : FailsSearching net o s requests e) : update net s o = .failed s requests e := by
  obtain ⟨p, first, last, hpasses, -, hstage, rfl⟩ := h
  exact (update_run net o s).unique (hpasses.run (.stopped hstage))

theorem Passes.update_eq {requests : List Request} {path name : Text} {release : Release}
    (h : Passes net o s .started requests (.found path name release)) :
    update net s o = deliver s path o.version name o.dryRun requests release := by
  rw [deliver_following]
  exact (update_run net o s).unique (h.run (run_found net o s path name release))

/-- The stages of a run fail before the last one or lead to it. -/
theorem Run.fails_or_passes {p : Progress} {x : Outcome σ Report} (h : Run net o s p x) :
    (∃ q first last e, Passes net o s p first q ∧ ¬ q.IsFound ∧
        stage net o s q = ⟨.error e, s, [], last⟩) ∨
      ∃ requests q, Passes net o s p requests q ∧ q.IsFound := by
  -- along the run: a stage that fails may be the last one, and one that hands on may not
  induction h with
  | @stopped s s' p e printed requests hstage =>
      by_cases hfound : p.IsFound
      · exact Or.inr ⟨[], p, .here p, hfound⟩
      · obtain ⟨rfl, rfl⟩ := stage_unchanged hstage (by simp)
        exact Or.inl ⟨p, [], requests, e, .here p, hfound, hstage⟩
  | @finished s s' p r printed requests hstage =>
      exact Or.inr ⟨[], p, .here p, isFound_of_stage hstage⟩
  | passed hstage _ ih =>
      obtain ⟨rfl, rfl⟩ := stage_unchanged hstage (by simp)
      rcases ih with ⟨q, first, last, e, hpasses, hfound, herror⟩ | ⟨later, q, hpasses, hfound⟩
      · exact Or.inl ⟨q, _, last, e, .onward hstage hpasses, hfound, herror⟩
      · exact Or.inr ⟨_, q, .onward hstage hpasses, hfound⟩

/-- **One search, two updates**: the stages that the one passes are passed by the other. -/
theorem Passes.movedTo (h : SameQuestion o o') (t : τ) (path : Text) {p q : Progress}
    {requests : List Request} (hp : p ≠ .started) (hpasses : Passes net o s p requests q) :
    Passes net o' t (p.movedTo path) requests (q.movedTo path) ∧ q ≠ .started := by
  induction hpasses with
  | here p => exact ⟨.here _, hp⟩
  | onward hstage _ ih =>
      obtain ⟨α, x, next, hseek, hseek', hnext⟩ :=
        stage_eq_seek net s t h path hp (not_isFound_of_stage hstage)
      obtain ⟨⟨a, ha, rfl⟩, -, -, hrequests⟩ := seek_eq_inl_iff.mp (hseek.symm.trans hstage)
      obtain ⟨hlater, hq⟩ := ih (hnext a)
      have hstage' := hseek'.trans (seek_eq_inl_iff.mpr ⟨⟨a, ha, rfl⟩, rfl, rfl, hrequests⟩)
      exact ⟨.onward hstage' hlater, hq⟩

/-- The stages of an update with a current directory go on with its path. -/
theorem Passes.of_started {cwd : Text} (hcwd : Workspace.currentDirectory s = .ok cwd)
    {requests : List Request} {q : Progress} (h : Passes net o s .started requests q)
    (hq : q ≠ .started) : Passes net o s (.located (outputPathFrom cwd o)) requests q := by
  cases h with
  | here => exact absurd rfl hq
  | onward hstage hlater =>
      rw [stage_started] at hstage
      obtain ⟨⟨path, hpath, rfl⟩, -, -, rfl⟩ := seek_eq_inl_iff.mp hstage
      obtain rfl : outputPathFrom cwd o = path :=
        Except.ok.inj ((outputPath_of_directory hcwd).symm.trans hpath)
      exact hlater

theorem Passes.started {cwd : Text} (hcwd : Workspace.currentDirectory s = .ok cwd)
    {requests : List Request} {q : Progress}
    (h : Passes net o s (.located (outputPathFrom cwd o)) requests q) :
    Passes net o s .started requests q := by
  have hpath : outputPath s o = .ok (outputPathFrom cwd o) := outputPath_of_directory hcwd
  have hstage := (stage_started net o s).trans
    (seek_eq_inl_iff.mpr ⟨⟨_, hpath, rfl⟩, rfl, rfl, rfl⟩)
  exact .onward hstage h

/-- What the stages of one update have led to, those of the other lead to as well. -/
theorem Passes.transfer (h : SameQuestion o o') {cwd cwd' : Text}
    (hs : Workspace.currentDirectory s = .ok cwd) (ht : Workspace.currentDirectory t = .ok cwd')
    {requests : List Request} {q : Progress} (hpasses : Passes net o s .started requests q)
    (hq : q ≠ .started) :
    Passes net o' t .started requests (q.movedTo (outputPathFrom cwd' o')) := by
  have hlocated : Passes net o s (.located (outputPathFrom cwd o)) requests q :=
    hpasses.of_started hs hq
  exact (hlocated.movedTo h t (outputPathFrom cwd' o') (by simp)).1.started ht

/-- The last stage, on whatever was found, ends in one of three ways. -/
theorem deliver_output (s : σ) (path version name : Text) (dryRun : Bool)
    (requests : List Request) (release : Release) :
    Output s path name release (Properties.render version release) requests dryRun
      (deliver s path version name dryRun requests release) := by
  unfold deliver writeProperties
  cases dryRun with
  | true => exact .printed
  | false =>
      cases hwrite : Workspace.write s path (Properties.render version release) with
      | ok s' => exact .written hwrite
      | error e => exact .refused hwrite

/-- If the search of one update fails, that of the other fails with the same failure. -/
theorem FailsSearching.transfer (h : SameQuestion o o') {cwd cwd' : Text}
    (hs : Workspace.currentDirectory s = .ok cwd) (ht : Workspace.currentDirectory t = .ok cwd')
    {requests : List Request} {e : Failure} (hfails : FailsSearching net o s requests e) :
    FailsSearching net o' t requests e := by
  obtain ⟨p, first, last, hpasses, hfound, hstage, rfl⟩ := hfails
  have hstarted : p ≠ .started := by
    rintro rfl
    rw [stage_started] at hstage
    have hpath := (seek_eq_error_iff.mp hstage).1
    exact nomatch hpath.symm.trans (outputPath_of_directory hs)
  obtain ⟨α, x, next, hseek, hseek', -⟩ :=
    stage_eq_seek net s t h (outputPathFrom cwd' o') hstarted hfound
  obtain ⟨hx, -, -, hlast⟩ := seek_eq_error_iff.mp (hseek.symm.trans hstage)
  refine ⟨_, first, last, hpasses.transfer h hs ht hstarted, ?_,
    hseek'.trans (seek_eq_error_iff.mpr ⟨hx, rfl, rfl, hlast⟩), rfl⟩
  exact fun hmoved => hfound (Progress.isFound_of_movedTo hmoved)

end

/-- **What is looked up does not depend on where or whether it is written.** Two updates that ask
for the same, and have a current directory each, make the same requests. Either the search of both
fails, with the same failure, or both come to their last stage with the same release and the same
text, which the one may print and the other write; a dry run does not fail there, prints what the
other writes, and the reports of the two differ in nothing but the path and the two flags on the
file. -/
theorem update_same_question {σ τ : Type} [Workspace σ] [Workspace τ] (net : Network) {s : σ}
    {t : τ} {o o' : Options} {cwd cwd' : Text} (h : SameQuestion o o')
    (hs : Workspace.currentDirectory s = .ok cwd)
    (ht : Workspace.currentDirectory t = .ok cwd') :
    (update net s o).requests = (update net t o').requests ∧
    ((∃ requests e, FailsSearching net o s requests e ∧ FailsSearching net o' t requests e ∧
        update net s o = .failed s requests e ∧ update net t o' = .failed t requests e) ∨
      ∃ requests name release,
        Passes net o s .started requests (.found (outputPathFrom cwd o) name release) ∧
        Passes net o' t .started requests (.found (outputPathFrom cwd' o') name release) ∧
        Output s (outputPathFrom cwd o) name release (Properties.render o.version release) requests
          o.dryRun (update net s o) ∧
        Output t (outputPathFrom cwd' o') name release (Properties.render o.version release)
          requests o'.dryRun (update net t o')) ∧
    (∀ r r', (update net s o).result = .ok r → (update net t o').result = .ok r' →
      r' = { r with outputPath := r'.outputPath, written := r'.written, replaced := r'.replaced }) ∧
    (∀ r', o.dryRun = true → o'.dryRun = false → (update net t o').result = .ok r' →
      Workspace.write t r'.outputPath (update net s o).printed =
        .ok (update net t o').workspace) ∧
    (∀ e, o.dryRun = true → (update net s o).result = .error e →
      ∃ requests, FailsSearching net o s requests e) := by
  rcases (update_run net o s).fails_or_passes with
    ⟨q, first, last, e, hpasses, hfound, herror⟩ | ⟨requests, _, hpasses, path, name, release, rfl⟩
  · have hfails : FailsSearching net o s (first ++ last) e :=
      ⟨q, first, last, hpasses, hfound, herror, rfl⟩
    have hfails' := hfails.transfer h hs ht
    have hx := hfails.update_eq
    have hy := hfails'.update_eq
    refine ⟨by rw [hx, hy]; rfl, Or.inl ⟨first ++ last, e, hfails, hfails', hx, hy⟩, ?_, ?_, ?_⟩
    · intro r r' hr
      rw [hx] at hr
      cases hr
    · intro r' _ _ hr'
      rw [hy] at hr'
      cases hr'
    · intro e' _ he
      rw [hx] at he
      cases he
      exact ⟨_, hfails⟩
  · have hreaches : Passes net o s .started requests (.found (outputPathFrom cwd o) name release) :=
      hpasses.transfer (.refl o) hs hs (by simp)
    have hreaches' : Passes net o' t .started requests
        (.found (outputPathFrom cwd' o') name release) := hpasses.transfer h hs ht (by simp)
    have hx := deliver_output s (outputPathFrom cwd o) o.version name o.dryRun requests release
    have hy := deliver_output t (outputPathFrom cwd' o') o'.version name o'.dryRun requests release
    rw [← hreaches.update_eq] at hx
    rw [← hreaches'.update_eq, ← h.version_eq] at hy
    refine ⟨hx.requests_eq.trans hy.requests_eq.symm,
      Or.inr ⟨requests, name, release, hreaches, hreaches', hx, hy⟩, ?_, ?_, ?_⟩
    · intro r r' hr hr'
      obtain ⟨rfl, rfl⟩ := hx.report_eq hr
      obtain ⟨hname, hrelease⟩ := hy.report_eq hr'
      rw [← hname, ← hrelease]
    · intro r' hdry hdry' hr'
      rw [hdry] at hx
      rw [hdry'] at hy
      rw [hx.printed_eq]
      exact hy.write_eq hr'
    · intro e hdry he
      rw [hdry] at hx
      exact absurd he (hx.ne_error e)

theorem eq_ok_of_toOption {α : Type} {x : Except Failure α} {a : α} (h : x.toOption = some a) :
    x = .ok a := by
  cases x with
  | error e => cases h
  | ok b =>
      cases h
      rfl

/-- An archive page with a frame, and the page in the frame, which lists one release. -/
def oneRelease : Network :=
  .serving [("http://[::1]/".toList, ⟨200, [], bytes "<iframe src=\x22list\x22>".toList, .whole⟩),
    ("http://[::1]/list".toList, ⟨200, [], bytes ("3.3.1 https://dl.google.com/dl/android/studio/" ++
      "ide-zips/3.3.1.0/android-studio-ide-182.5264788-windows.zip").toList, .whole⟩)]
where
  /-- The bytes of a text in ASCII. -/
  bytes (t : Text) : List UInt8 := t.map fun c => UInt8.ofNat c.toNat

/-- An update from the archive above, and a dry run of it with a path of its own. -/
def writing : Options :=
  { Options.ofVersion "3.3.1".toList with archiveUrl := some "http://[::1]/".toList }

def printing : Options := { writing with output := some "out".toList, dryRun := true }

/-- A directory in which the file may not be written, and one in which it may. -/
def protectedStore : Store := ⟨some "/repo".toList, [], [("/repo/out".toList, [])]⟩

def openStore : Store := ⟨some "/tmp/work".toList, [], []⟩

/-- The path at which the update above writes. -/
def writtenPath : Text := "/tmp/work/buildSrc/studio_versions.properties".toList

/-- What a dry run prints is what the update writes. -/
theorem update_same_question_dryRun :
    (update oneRelease openStore writing).result =
        .ok ⟨"3.3.1".toList, ⟨"3.3.1.0".toList, "182".toList, "5264788".toList⟩, writtenPath, true,
          false⟩ ∧
      Workspace.write openStore writtenPath (update oneRelease protectedStore printing).printed =
        .ok (update oneRelease openStore writing).workspace := by
  have hsame : SameQuestion printing writing := ⟨rfl, rfl, rfl⟩
  have hs : Workspace.currentDirectory protectedStore = .ok "/repo".toList := rfl
  have ht : Workspace.currentDirectory openStore = .ok "/tmp/work".toList := rfl
  have hfound : (update oneRelease openStore writing).result.toOption =
      some ⟨"3.3.1".toList, ⟨"3.3.1.0".toList, "182".toList, "5264788".toList⟩, writtenPath, true,
        false⟩ := by decide +kernel
  have hr := eq_ok_of_toOption hfound
  obtain ⟨-, -, -, hwrites, -⟩ := update_same_question oneRelease hsame hs ht
  exact ⟨hr, hwrites _ rfl rfl hr⟩

end StudioLookup
