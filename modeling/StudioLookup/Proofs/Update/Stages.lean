import StudioLookup.Proofs.Update.Course

set_option autoImplicit false

/-! # The stages of an update

An update goes through seven stages, and what it has found so far (`Progress`) says which of them
is next. `stage` performs a single one of them, and a `Run` performs one after the other until one
fails or the last is done. The two views of an update agree: `update_run` shows that `update` ends
as the run from the beginning does, and `Run.unique` that a run can end in no other way.

So an update can be followed stage by stage. What no stage does when it fails, a run does not do
when it fails (`Run.eq_failed`), and the requests of a run are those of its stages in their order.
-/

namespace StudioLookup

open Archive Web

/-! ## Stages -/

/-- How far an update has come: what its stages have found. -/
inductive Progress where
  | started
  /-- The path of the file is known. -/
  | located (path : Text)
  /-- The release has a name. -/
  | named (path name : Text)
  /-- The archive page is fetched. -/
  | opened (path name page : Text)
  /-- The URL of the frame is known. -/
  | framed (path name frame : Text)
  /-- The page in the frame is fetched. -/
  | listed (path name list : Text)
  /-- The release is found. -/
  | found (path name : Text) (release : Release)

/-- A stage that looks for something and touches nothing. -/
def seek {σ α : Type} (s : σ) (x : Exchange α) (next : α → Progress) :
    Outcome σ (Progress ⊕ Report) :=
  ⟨x.result.map fun a => .inl (next a), s, [], x.requests⟩

theorem seek_unchanged {σ α : Type} {s s' : σ} {x : Exchange α} {next : α → Progress}
    {printed : Text} {requests : List Request} {result : Except Failure (Progress ⊕ Report)}
    (h : seek s x next = ⟨result, s', printed, requests⟩) : s' = s ∧ printed = [] := by
  cases h
  exact ⟨rfl, rfl⟩

/-- The next stage of an update: it brings the update further, or yields the report. The last one
prints the text of the file in a dry run, and otherwise writes it, unless the workspace refuses
this. -/
def stage {σ : Type} [Workspace σ] (net : Network) (o : Options) (s : σ) :
    Progress → Outcome σ (Progress ⊕ Report)
  | .started => seek s (.done (outputPath s o)) .located
  | .located path => seek s (.done (releaseName o.version)) (.named path)
  | .named path name => seek s (getText net (some userAgent) o.archive) (.opened path name)
  | .opened path name page => seek s (.done (frameUrl page o.archive)) (.framed path name)
  | .framed path name frame => seek s (getText net (some userAgent) frame) (.listed path name)
  | .listed path name list => seek s (.done (findRelease list name)) (.found path name)
  | .found path name release =>
      let text := Properties.render o.version release
      if o.dryRun then ⟨.ok (.inr ⟨name, release, path, false, false⟩), s, text, []⟩
      else
        match Workspace.write s path text with
        | .ok s' => ⟨.ok (.inr ⟨name, release, path, true, Workspace.holds s path⟩), s', [], []⟩
        | .error e =>
            .failed s [] (.ofKind .io ("cannot write ".toList ++ path ++ ": ".toList ++ e.inLine))

/-- The end of an update, as the outcome of its last stage. -/
def conclusion {σ : Type} (x : Outcome σ Report) : Outcome σ (Progress ⊕ Report) :=
  ⟨x.result.map .inr, x.workspace, x.printed, x.requests⟩

/-- An outcome with what was printed and requested before it. -/
def Outcome.following {σ α : Type} (printed : Text) (requests : List Request) (x : Outcome σ α) :
    Outcome σ α :=
  ⟨x.result, x.workspace, printed ++ x.printed, requests ++ x.requests⟩

/-- How the stages of an update end, from what it has found in a workspace: with the first stage
that fails, or with the report of the last. -/
inductive Run {σ : Type} [Workspace σ] (net : Network) (o : Options) :
    σ → Progress → Outcome σ Report → Prop where
  | stopped {s s' : σ} {p : Progress} {e : Failure} {printed : Text} {requests : List Request} :
      stage net o s p = ⟨.error e, s', printed, requests⟩ →
      Run net o s p ⟨.error e, s', printed, requests⟩
  | finished {s s' : σ} {p : Progress} {r : Report} {printed : Text} {requests : List Request} :
      stage net o s p = ⟨.ok (.inr r), s', printed, requests⟩ →
      Run net o s p ⟨.ok r, s', printed, requests⟩
  | passed {s s' : σ} {p q : Progress} {printed : Text} {requests : List Request}
      {x : Outcome σ Report} :
      stage net o s p = ⟨.ok (.inl q), s', printed, requests⟩ → Run net o s' q x →
      Run net o s p (x.following printed requests)

theorem Exchange.andThen_done {α : Type} (x : Exchange α) :
    (x.andThen fun a => .done (.ok a)) = x := by
  obtain ⟨result, requests⟩ := x
  cases result with
  | error e => rfl
  | ok a =>
      show Exchange.mk (.ok a) (requests ++ []) = ⟨.ok a, requests⟩
      rw [List.append_nil]

theorem Exchange.andThen_assoc {α β γ : Type} (x : Exchange α) (f : α → Exchange β)
    (g : β → Exchange γ) : (x.andThen f).andThen g = x.andThen fun a => (f a).andThen g := by
  unfold Exchange.andThen
  cases x.result with
  | error e => rfl
  | ok a =>
      cases hf : (f a).result with
      | error e => simp [hf]
      | ok b => simp [hf]

section

variable {σ : Type} [Workspace σ] {net : Network} {o : Options} {s : σ}

theorem stage_found (net : Network) (o : Options) (s : σ) (path name : Text) (release : Release) :
    stage net o s (.found path name release) =
      conclusion (deliver s path o.version name o.dryRun [] release) := by
  unfold stage conclusion deliver writeProperties
  dsimp only
  cases o.dryRun with
  | true => rfl
  | false =>
      cases Workspace.write s path (Properties.render o.version release) with
      | ok s' => rfl
      | error e => rfl

/-- The stages of an update end in one way only. -/
theorem Run.unique {p : Progress} {x y : Outcome σ Report} (hx : Run net o s p x)
    (hy : Run net o s p y) : x = y := by
  -- the outcome of the next stage decides which of the three rules applies
  induction hx generalizing y with
  | stopped h =>
      cases hy with
      | stopped h' =>
          cases h.symm.trans h'
          rfl
      | finished h' => cases h.symm.trans h'
      | passed h' _ => cases h.symm.trans h'
  | finished h =>
      cases hy with
      | stopped h' => cases h.symm.trans h'
      | finished h' =>
          cases h.symm.trans h'
          rfl
      | passed h' _ => cases h.symm.trans h'
  | passed h _ ih =>
      cases hy with
      | stopped h' => cases h.symm.trans h'
      | finished h' => cases h.symm.trans h'
      | passed h' hy =>
          cases h.symm.trans h'
          rw [ih hy]

/-! ## Effects -/

/-- The last stage fails without effect or yields a report. -/
theorem deliver_ends (s : σ) (path version name : Text) (dryRun : Bool) (release : Release) :
    (∃ e, ∀ requests, deliver s path version name dryRun requests release =
        .failed s requests e) ∨
      ∃ report s' printed, ∀ requests, deliver s path version name dryRun requests release =
        ⟨.ok report, s', printed, requests⟩ := by
  rcases deliver_cases s path version name dryRun release with h | ⟨-, h⟩ | ⟨-, s', -, h⟩
  · exact Or.inl h
  · exact Or.inr ⟨_, _, _, h⟩
  · exact Or.inr ⟨_, _, _, h⟩

/-- A stage has no effect but requests unless it yields the report. -/
theorem stage_unchanged {s' : σ} {p : Progress} {printed : Text} {requests : List Request}
    {result : Except Failure (Progress ⊕ Report)}
    (h : stage net o s p = ⟨result, s', printed, requests⟩) (hr : ∀ r, result ≠ .ok (.inr r)) :
    s' = s ∧ printed = [] := by
  cases p with
  | started => exact seek_unchanged h
  | located path => exact seek_unchanged h
  | named path name => exact seek_unchanged h
  | opened path name page => exact seek_unchanged h
  | framed path name frame => exact seek_unchanged h
  | listed path name list => exact seek_unchanged h
  | found path name release =>
      rw [stage_found] at h
      rcases deliver_ends s path o.version name o.dryRun release with ⟨e, he⟩ | ⟨r, s'', t, hok⟩
      · rw [he] at h
        cases h
        exact ⟨rfl, rfl⟩
      · rw [hok] at h
        cases h
        exact absurd rfl (hr r)

/-- Stages that end with a failure have changed and printed nothing. -/
theorem Run.eq_failed {p : Progress} {x : Outcome σ Report} (h : Run net o s p x) {e : Failure}
    (hx : x.result = .error e) : x = .failed s x.requests e := by
  induction h with
  | stopped h =>
      obtain ⟨rfl, rfl⟩ := stage_unchanged h (by simp)
      cases hx
      rfl
  | finished h => cases hx
  | passed h _ ih =>
      -- a stage that hands on to another one is not the last, so it has no effect
      obtain ⟨rfl, rfl⟩ := stage_unchanged h (by simp)
      rw [ih hx]
      rfl

/-! ## The run of an update -/

theorem deliver_following (path version name : Text) (dryRun : Bool) (requests : List Request)
    (release : Release) : deliver s path version name dryRun requests release =
      (deliver s path version name dryRun [] release).following [] requests := by
  rcases deliver_ends s path version name dryRun release with ⟨e, he⟩ | ⟨r, s', t, hok⟩
  · rw [he, he]
    simp only [Outcome.following, Outcome.failed, List.append_nil]
  · rw [hok, hok]
    simp only [Outcome.following, List.append_nil, List.nil_append]

/-- An update whose path and name are known, from what the lookup yields. -/
def conclude (o : Options) (s : σ) (path name : Text) (x : Exchange Release) : Outcome σ Report :=
  match x.result with
  | .error e => .failed s x.requests e
  | .ok release => deliver s path o.version name o.dryRun x.requests release

theorem update_eq_conclude (net : Network) {path name : Text} (hpath : outputPath s o = .ok path)
    (hname : releaseName o.version = .ok name) : update net s o =
      conclude o s path name (lookUp net (some userAgent) o.archive name) := by
  unfold update runUpdate
  rw [hpath]
  dsimp only
  rw [hname]
  rfl

theorem conclude_requests (path name : Text) (x : Exchange Release) :
    (conclude o s path name x).requests = x.requests := by
  unfold conclude
  cases x.result with
  | error e => rfl
  | ok release =>
      rcases deliver_ends s path o.version name o.dryRun release with ⟨e, he⟩ | ⟨r, s', t, hok⟩
      · exact congrArg Outcome.requests (he x.requests)
      · exact congrArg Outcome.requests (hok x.requests)

/-- What is requested first does not change what is done with the release. -/
theorem conclude_following (path name : Text) (result : Except Failure Release)
    (first second : List Request) : conclude o s path name ⟨result, first ++ second⟩ =
      (conclude o s path name ⟨result, second⟩).following [] first := by
  unfold conclude
  cases result with
  | error e => rfl
  | ok release =>
      calc deliver s path o.version name o.dryRun (first ++ second) release
          = (deliver s path o.version name o.dryRun [] release).following [] (first ++ second) :=
            deliver_following path o.version name o.dryRun (first ++ second) release
        _ = ((deliver s path o.version name o.dryRun [] release).following [] second).following []
              first := by
            simp only [Outcome.following, List.nil_append, List.append_assoc]
        _ = (deliver s path o.version name o.dryRun second release).following [] first := by
            rw [← deliver_following]

/-- A stage that looks for something ends the run or hands on to the stages after it. -/
theorem run_of_seek {α : Type} {p : Progress} {x : Exchange α} {next : α → Progress}
    {y : α → Outcome σ Report} (hstage : stage net o s p = seek s x next)
    (hrun : ∀ a, Run net o s (next a) (y a)) :
    Run net o s p (match x.result with
      | .error e => .failed s x.requests e
      | .ok a => (y a).following [] x.requests) := by
  unfold seek at hstage
  cases hx : x.result with
  | error e =>
      rw [hx] at hstage
      exact .stopped hstage
  | ok a =>
      rw [hx] at hstage
      exact .passed hstage (hrun a)

/-- The same for a stage of the lookup, whose further stages are those of `k`. -/
theorem run_conclude {α : Type} {p : Progress} {path name : Text} {x : Exchange α}
    {next : α → Progress} {k : α → Exchange Release} (hstage : stage net o s p = seek s x next)
    (hrun : ∀ a, Run net o s (next a) (conclude o s path name (k a))) :
    Run net o s p (conclude o s path name (x.andThen k)) := by
  have h := run_of_seek hstage hrun
  unfold Exchange.andThen
  cases hx : x.result with
  | error e =>
      rw [hx] at h
      exact h
  | ok a =>
      rw [hx] at h
      show Run net o s p (conclude o s path name ⟨(k a).result, x.requests ++ (k a).requests⟩)
      rw [conclude_following]
      exact h

theorem run_found (net : Network) (o : Options) (s : σ) (path name : Text) (release : Release) :
    Run net o s (.found path name release) (conclude o s path name (.done (.ok release))) := by
  have hstage := stage_found net o s path name release
  show Run net o s _ (deliver s path o.version name o.dryRun [] release)
  rcases deliver_ends s path o.version name o.dryRun release with ⟨e, he⟩ | ⟨r, s', t, hok⟩
  · rw [he] at hstage ⊢
    exact .stopped hstage
  · rw [hok] at hstage ⊢
    exact .finished hstage

/-- From the name on, the stages look the release up and conclude with what they have found. -/
theorem run_named (net : Network) (o : Options) (s : σ) (path name : Text) :
    Run net o s (.named path name)
      (conclude o s path name (lookUp net (some userAgent) o.archive name)) := by
  -- from the last stage of the lookup back to the first
  have hlisted : ∀ list, Run net o s (.listed path name list)
      (conclude o s path name (.done (findRelease list name))) := by
    intro list
    rw [← Exchange.andThen_done (.done (findRelease list name))]
    exact run_conclude rfl (run_found net o s path name)
  have hframed : ∀ frame, Run net o s (.framed path name frame)
      (conclude o s path name (fetchRelease net (some userAgent) frame name)) := by
    intro frame
    exact run_conclude rfl hlisted
  have hopened : ∀ page, Run net o s (.opened path name page)
      (conclude o s path name ((Exchange.done (frameUrl page o.archive)).andThen fun frame =>
        fetchRelease net (some userAgent) frame name)) := by
    intro page
    exact run_conclude rfl hframed
  -- the two stages of the first hop are one exchange in the lookup
  rw [lookUp, fetchFrameUrl, Exchange.andThen_assoc]
  exact run_conclude rfl hopened

theorem run_located (net : Network) (o : Options) (s : σ) (path : Text) :
    Run net o s (.located path)
      (runUpdate (lookUp net (some userAgent) o.archive) s path o.version o.dryRun) := by
  have h := run_of_seek (p := .located path) rfl (run_named net o s path)
  unfold runUpdate
  cases hname : releaseName o.version with
  | error e =>
      rw [hname] at h
      exact h
  | ok name =>
      rw [hname] at h
      exact h

/-- **The run of an update**: from the beginning, the stages end as the update does. -/
theorem update_run (net : Network) (o : Options) (s : σ) :
    Run net o s .started (update net s o) := by
  have h := run_of_seek (p := .started) rfl (run_located net o s)
  unfold update
  cases hpath : outputPath s o with
  | error e =>
      rw [hpath] at h
      exact h
  | ok path =>
      rw [hpath] at h
      exact h

/-! ## The request log -/

/-- A version that is refused is reported as a fault of form. -/
theorem kind?_of_releaseName_eq_error {version : Text} {e : Failure}
    (h : releaseName version = .error e) : e.kind? = some .format := by
  unfold releaseName at h
  cases hread : Version.read version with
  | ok v =>
      rw [hread] at h
      cases h
  | error fault =>
      rw [hread] at h
      cases h
      rfl

/-- Looking into a page that is fetched takes no further request. -/
theorem andThen_done_requests {α β : Type} (x : Exchange α) (f : α → Except Failure β) :
    (x.andThen fun a => .done (f a)).requests = x.requests := by
  unfold Exchange.andThen
  cases x.result with
  | error e => rfl
  | ok a => exact List.append_nil x.requests

theorem fetchFrameUrl_result (net : Network) (agent : Option Text) (url : Text) :
    (fetchFrameUrl net agent url).result =
      match (getText net agent url).result with
      | .error e => .error e
      | .ok page => frameUrl page url := by
  unfold fetchFrameUrl Exchange.andThen
  cases (getText net agent url).result with
  | error e => rfl
  | ok page => rfl

/-- Without a frame there is no second hop. -/
theorem lookUp_of_error {agent : Option Text} {url name : Text} {e : Failure}
    (h : (fetchFrameUrl net agent url).result = .error e) :
    lookUp net agent url name = ⟨.error e, (getText net agent url).requests⟩ := by
  unfold lookUp Exchange.andThen
  rw [h]
  exact congrArg (Exchange.mk (.error e)) (andThen_done_requests _ _)

/-- With a frame there are two hops, whatever the second one yields. -/
theorem lookUp_requests {agent : Option Text} {url name frame : Text}
    (h : (fetchFrameUrl net agent url).result = .ok frame) :
    (lookUp net agent url name).requests =
      (getText net agent url).requests ++ (getText net agent frame).requests := by
  have hfirst : (fetchFrameUrl net agent url).requests = (getText net agent url).requests :=
    andThen_done_requests _ _
  have hsecond : (fetchRelease net agent frame name).requests =
      (getText net agent frame).requests := andThen_done_requests _ _
  calc (lookUp net agent url name).requests
      = (fetchFrameUrl net agent url).requests ++ (fetchRelease net agent frame name).requests := by
        unfold lookUp Exchange.andThen
        rw [h]
    _ = (getText net agent url).requests ++ (getText net agent frame).requests := by
        rw [hfirst, hsecond]

theorem outputPath_of_directory {cwd : Text} (h : Workspace.currentDirectory s = .ok cwd) :
    outputPath s o = .ok (outputPathFrom cwd o) := by
  unfold outputPath
  rw [h]

end

/-- **The order of the stages, and the requests of an update.** An update ends exactly as the run
of its stages does, and a failed one has no effect but its requests. Those are none before the
release is named, those of the archive page up to the URL of its frame, and from there on those
of the two pages. -/
theorem update_stage_order {σ : Type} [Workspace σ] (net : Network) (o : Options) (s : σ) :
    (∀ x, Run net o s .started x ↔ x = update net s o) ∧
    (∀ e, (update net s o).result = .error e →
      update net s o = .failed s (update net s o).requests e) ∧
    (∀ e, Workspace.currentDirectory s = .error e → update net s o = .failed s [] e) ∧
    (∀ cwd e, Workspace.currentDirectory s = .ok cwd → releaseName o.version = .error e →
      update net s o = .failed s [] e ∧ e.kind? = some .format) ∧
    ∀ cwd name, Workspace.currentDirectory s = .ok cwd → releaseName o.version = .ok name →
      (∀ e, (getText net (some userAgent) o.archive).result = .error e →
        update net s o = .failed s (getText net (some userAgent) o.archive).requests e) ∧
      (∀ page e, (getText net (some userAgent) o.archive).result = .ok page →
        frameUrl page o.archive = .error e →
        update net s o = .failed s (getText net (some userAgent) o.archive).requests e) ∧
      ∀ page frame, (getText net (some userAgent) o.archive).result = .ok page →
        frameUrl page o.archive = .ok frame →
        (update net s o).requests = (getText net (some userAgent) o.archive).requests ++
          (getText net (some userAgent) frame).requests := by
  have hrun := update_run net o s
  refine ⟨fun x => ⟨fun hx => hx.unique hrun, fun hx => hx ▸ hrun⟩,
    fun e he => hrun.eq_failed he, ?_, ?_, ?_⟩
  · intro e he
    unfold update outputPath
    rw [he]
  · intro cwd e hcwd hname
    refine ⟨?_, kind?_of_releaseName_eq_error hname⟩
    unfold update runUpdate
    rw [outputPath_of_directory hcwd, hname]
  · intro cwd name hcwd hname
    have hconclude := update_eq_conclude net (outputPath_of_directory hcwd) hname
    have hresult := fetchFrameUrl_result net (some userAgent) o.archive
    -- the first hop fails to fetch, fails to find a frame, or yields one
    refine ⟨?_, ?_, ?_⟩
    · intro e he
      rw [he] at hresult
      rw [hconclude, lookUp_of_error hresult]
      rfl
    · intro page e hpage hframe
      rw [hpage] at hresult
      rw [hconclude, lookUp_of_error (hresult.trans hframe)]
      rfl
    · intro page frame hpage hframe
      rw [hpage] at hresult
      rw [hconclude, conclude_requests, lookUp_requests (hresult.trans hframe)]

end StudioLookup
