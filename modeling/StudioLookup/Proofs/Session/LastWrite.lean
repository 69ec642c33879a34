import StudioLookup.Proofs.Update.Course
import StudioLookup.Session

set_option autoImplicit false

/-! # Who wrote the files of a store

In a session on a store, the text at a path is the one that the last step to set it has set. Which
steps set what is said by `Sets`, from the step and its answer alone: an update or a part of it
sets a path only if it succeeds and is no dry run, and a part that is handed the answer of a lookup
sets what belongs to this release. `accounts_outcome` shows that a single step changes just what it
sets, and `last_writer_wins` follows by induction on the steps.
-/

namespace StudioLookup.Session

open Web

/-! ## What has happened in a session -/

/-- The steps of a session, each with what it answered. -/
def history {σ ε : Type} [Workspace σ] (after : σ → ε → σ) (session : Session σ)
    (steps : List (Step ε)) : List (Step ε × Except Failure Answer) :=
  steps.zip ((session.outcomes after steps).map Outcome.result)

/-- The session after a sequence of steps. -/
def finish {σ ε : Type} [Workspace σ] (after : σ → ε → σ) (session : Session σ)
    (steps : List (Step ε)) : Session σ :=
  steps.foldl (next after) session

/-- A step with the given answer leaves `text` at the path `p`, where nothing stands for a file
that is gone. No other step sets the path. -/
inductive Sets (p : Text) : Step Store.Event → Except Failure Answer → Option Text → Prop where
  | put (text : Text) : Sets p (.outside (.put p text)) (.ok .done) (some text)
  | remove : Sets p (.outside (.remove p)) (.ok .done) none
  | writeText (text : Text) : Sets p (.writeText p text) (.ok .done) (some text)
  | writeProperties (version : Text) (release : Release) (replaced : Bool) :
      Sets p (.writeProperties p version release) (.ok (.replaced replaced))
        (some (Properties.render version release))
  | run (version : Text) (found : Except Failure Release) (names : List Text) (r : Report) :
      found = .ok r.release →
      Sets p (.run version p false found) (.ok (.ran names (.ok r)))
        (some (Properties.render version r.release))
  | update (o : Options) (r : Report) : o.dryRun = false → r.outputPath = p →
      Sets p (.update o) (.ok (.report r)) (some (Properties.render o.version r.release))

/-- A step with the given answer tells whether a file was replaced at a path. -/
inductive Tells : Step Store.Event → Except Failure Answer → Text → Bool → Prop where
  | writeProperties (path version : Text) (release : Release) (replaced : Bool) :
      Tells (.writeProperties path version release) (.ok (.replaced replaced)) path replaced
  | run (version path : Text) (found : Except Failure Release) (names : List Text) (r : Report) :
      Tells (.run version path false found) (.ok (.ran names (.ok r))) path r.replaced
  | update (o : Options) (r : Report) : o.dryRun = false →
      Tells (.update o) (.ok (.report r)) r.outputPath r.replaced

/-! ## A single step -/

/-- The files of `s'` are those of `s` but for what a step sets. -/
def Accounts (s s' : Store) (step : Step Store.Event) (result : Except Failure Answer) : Prop :=
  ∀ p, (∃ text, Sets p step result text ∧ s'.text? p = text) ∨
    ((∀ text, ¬ Sets p step result text) ∧ s'.text? p = s.text? p)

theorem accounts_of_not_sets {s s' : Store} {step : Step Store.Event}
    {result : Except Failure Answer} (hfiles : ∀ p, s'.text? p = s.text? p)
    (hsets : ∀ p text, ¬ Sets p step result text) : Accounts s s' step result := by
  intro p
  exact Or.inr ⟨hsets p, hfiles p⟩

/-- A step that sets one path and changes the store there accounts for its files. -/
theorem accounts_of_sets {s s' : Store} {step : Step Store.Event} {result : Except Failure Answer}
    {path : Text} {text : Option Text}
    (hfiles : ∀ p, s'.text? p = if p = path then text else s.text? p)
    (hset : Sets path step result text) (hother : ∀ p t, Sets p step result t → p = path) :
    Accounts s s' step result := by
  intro p
  by_cases hp : p = path
  · subst hp
    exact Or.inl ⟨text, hset, (hfiles p).trans (if_pos rfl)⟩
  · exact Or.inr ⟨fun t ht => hp (hother p t ht), (hfiles p).trans (if_neg hp)⟩

theorem accounts_event (s : Store) (event : Store.Event) :
    Accounts s (s.after event) (.outside event) (.ok .done) := by
  cases event with
  | put path text =>
      refine accounts_of_sets (s.text?_put_eq path text) (.put text) ?_
      rintro p t ⟨⟩
      rfl
  | remove path =>
      refine accounts_of_sets (s.text?_remove_eq path) .remove ?_
      rintro p t ⟨⟩
      rfl
  | protect path chain => exact accounts_of_not_sets (fun _ => rfl) (by rintro p t ⟨⟩)
  | unprotect path => exact accounts_of_not_sets (fun _ => rfl) (by rintro p t ⟨⟩)
  | moveTo directory => exact accounts_of_not_sets (fun _ => rfl) (by rintro p t ⟨⟩)

theorem accounts_run {s : Store} {path version : Text} {dryRun : Bool} {x : Outcome Store Report}
    {found : Except Failure Release} (h : Course s path version dryRun x)
    (hfound : ∀ r, x.result = .ok r → found = .ok r.release) (names : List Text) :
    Accounts s x.workspace (.run version path dryRun found) (.ok (.ran names x.result)) := by
  cases h with
  | failed requests e => exact accounts_of_not_sets (fun _ => rfl) (by rintro p t ⟨⟩)
  | printed requests _ hdry =>
      subst hdry
      exact accounts_of_not_sets (fun _ => rfl) (by rintro p t ⟨⟩)
  | written requests _ hdry hwrite =>
      subst hdry
      obtain ⟨-, rfl⟩ := Store.write_eq_ok_iff.mp hwrite
      refine accounts_of_sets (s.text?_put_eq path _)
        (.run version found names _ (hfound _ rfl)) fun p t hsets => ?_
      cases hsets
      rfl

theorem accounts_update (net : Network) (s : Store) (o : Options) :
    Accounts s (StudioLookup.update net s o).workspace (.update o)
      ((StudioLookup.update net s o).result.map .report) := by
  rcases update_course net s o with ⟨e, -, hfailed⟩ | ⟨path, -, hcourse⟩
  · rw [hfailed]
    exact accounts_of_not_sets (fun _ => rfl) (by rintro p t ⟨⟩)
  · generalize StudioLookup.update net s o = x at hcourse ⊢
    cases hcourse with
    | failed requests e => exact accounts_of_not_sets (fun _ => rfl) (by rintro p t ⟨⟩)
    | printed requests _ hdry =>
        refine accounts_of_not_sets (fun _ => rfl) fun p t hsets => ?_
        cases hsets with
        | update _ _ hwet _ => exact absurd (hwet.symm.trans hdry) Bool.false_ne_true
    | written requests _ hdry hwrite =>
        obtain ⟨-, rfl⟩ := Store.write_eq_ok_iff.mp hwrite
        refine accounts_of_sets (s.text?_put_eq path _) (.update o _ hdry rfl) fun p t hsets => ?_
        cases hsets with
        | update _ _ _ hp => exact hp.symm

/-- **Every step accounts for the files**: it changes what it sets and nothing else. -/
theorem accounts_outcome (session : Session Store) (step : Step Store.Event) :
    Accounts session.workspace (session.outcome Store.after step).workspace step
      (session.outcome Store.after step).result := by
  cases step with
  | serve net => exact accounts_of_not_sets (fun _ => rfl) (by rintro p t ⟨⟩)
  | outside event => exact accounts_event session.workspace event
  | askDirectory => exact accounts_of_not_sets (fun _ => rfl) (by rintro p t ⟨⟩)
  | askHolds path => exact accounts_of_not_sets (fun _ => rfl) (by rintro p t ⟨⟩)
  | writeText path text =>
      simp only [outcome]
      cases hwrite : Workspace.write session.workspace path text with
      | error e => exact accounts_of_not_sets (fun _ => rfl) (by rintro p t ⟨⟩)
      | ok s =>
          obtain ⟨-, rfl⟩ := Store.write_eq_ok_iff.mp hwrite
          refine accounts_of_sets (session.workspace.text?_put_eq path text) (.writeText text) ?_
          rintro p t ⟨⟩
          rfl
  | writeProperties path version release =>
      simp only [outcome]
      cases hwritten : StudioLookup.writeProperties session.workspace path version release with
      | error e => exact accounts_of_not_sets (fun _ => rfl) (by rintro p t ⟨⟩)
      | ok written =>
          obtain ⟨hwrite, -⟩ := writeProperties_eq_ok_iff.mp hwritten
          obtain ⟨-, hput⟩ := Store.write_eq_ok_iff.mp hwrite
          show Accounts session.workspace written.2 _ (.ok (.replaced written.1))
          rw [hput]
          refine accounts_of_sets (session.workspace.text?_put_eq path _)
            (.writeProperties version release _) ?_
          rintro p t ⟨⟩
          rfl
  | askOutputPath options => exact accounts_of_not_sets (fun _ => rfl) (by rintro p t ⟨⟩)
  | askSettings options => exact accounts_of_not_sets (fun _ => rfl) (by rintro p t ⟨⟩)
  | run version path dryRun found =>
      exact accounts_run (runUpdate_course _) (fun r hr => release_of_runUpdate hr) _
  | update options => exact accounts_update session.network session.workspace options

theorem update_result_eq_ok {session : Session Store} {o : Options} {r : Report}
    (h : (session.outcome Store.after (.update o)).result = .ok (.report r)) :
    (StudioLookup.update session.network session.workspace o).result = .ok r := by
  simp only [outcome] at h
  cases hx : (StudioLookup.update session.network session.workspace o).result with
  | error e =>
      rw [hx] at h
      cases h
  | ok r' =>
      rw [hx] at h
      cases h
      rfl

/-- The path in the report of an update is the one its options led to when it began. -/
theorem outputPath_of_report {session : Session Store} {o : Options} {r : Report}
    (h : (session.outcome Store.after (.update o)).result = .ok (.report r)) :
    outputPath session.workspace o = .ok r.outputPath := by
  have hr := update_result_eq_ok h
  rcases update_course session.network session.workspace o with ⟨e, -, hfailed⟩ | ⟨p, hp, hcourse⟩
  · rw [hfailed] at hr
    cases hr
  · obtain ⟨-, hpath, -⟩ := hcourse.report_eq hr
    rw [hp, hpath]

/-- The release in the report of an update is the one that the pages gave when it began. -/
theorem release_of_report {session : Session Store} {o : Options} {r : Report}
    (h : (session.outcome Store.after (.update o)).result = .ok (.report r)) :
    (Archive.lookUp session.network (some userAgent) o.archive r.releaseName).result =
      .ok r.release := by
  have hr := update_result_eq_ok h
  unfold StudioLookup.update at hr
  cases hpath : outputPath session.workspace o with
  | error e =>
      rw [hpath] at hr
      cases hr
  | ok path =>
      rw [hpath] at hr
      exact release_of_runUpdate hr

/-- What a step tells about a path is what was there before the step. -/
theorem replaced_iff {session : Session Store} {step : Step Store.Event} {path : Text} {b : Bool}
    (h : Tells step (session.outcome Store.after step).result path b) :
    b = true ↔ ∃ text, session.workspace.text? path = some text := by
  have hholds : b = Workspace.holds session.workspace path := by
    generalize hresult : (session.outcome Store.after step).result = result at h
    cases h with
    | writeProperties path version release replaced =>
        simp only [outcome] at hresult
        cases hwritten : StudioLookup.writeProperties session.workspace path version release with
        | error e =>
            rw [hwritten] at hresult
            cases hresult
        | ok written =>
            rw [hwritten] at hresult
            cases hresult
            exact (writeProperties_eq_ok_iff.mp hwritten).2
    | run version path found names r =>
        have hcourse : Course session.workspace path version false _ :=
          runUpdate_course fun _ => .done found
        have hr := (Answer.ran.inj (Except.ok.inj hresult)).2
        obtain ⟨-, -, -, hreplaced⟩ := hcourse.report_eq hr
        exact hreplaced
    | update o r hdry =>
        have hr := update_result_eq_ok hresult
        rcases update_course session.network session.workspace o with
          ⟨e, -, hfailed⟩ | ⟨p, -, hcourse⟩
        · rw [hfailed] at hr
          cases hr
        · rw [hdry] at hcourse
          obtain ⟨-, hpath, -, hreplaced⟩ := hcourse.report_eq hr
          rw [hpath]
          exact hreplaced
  rw [hholds]
  exact Option.isSome_iff_exists

/-! ## A whole session -/

theorem history_cons {σ ε : Type} [Workspace σ] (after : σ → ε → σ) (session : Session σ)
    (step : Step ε) (steps : List (Step ε)) : history after session (step :: steps) =
      (step, (session.outcome after step).result) ::
        history after (session.next after step) steps :=
  rfl

theorem finish_cons {σ ε : Type} [Workspace σ] (after : σ → ε → σ) (session : Session σ)
    (step : Step ε) (steps : List (Step ε)) :
    session.finish after (step :: steps) = (session.next after step).finish after steps :=
  rfl

/-- **The last writer wins.** After any steps, and so after each step of a longer session, the
file at a path is the one that the last step to set it has set, and the initial one if none has.
An update sets the path of its options to the release that the pages of the moment give, and a step
that tells whether it replaced a file tells what was there just before it. -/
theorem last_writer_wins (session : Session Store) (steps : List (Step Store.Event)) :
    (∀ p,
      (∃ earlier step result later text,
        history Store.after session steps = earlier ++ (step, result) :: later ∧
          Sets p step result text ∧ (∀ x ∈ later, ∀ t, ¬ Sets p x.1 x.2 t) ∧
          (session.finish Store.after steps).workspace.text? p = text) ∨
        ((∀ x ∈ history Store.after session steps, ∀ t, ¬ Sets p x.1 x.2 t) ∧
          (session.finish Store.after steps).workspace.text? p = session.workspace.text? p)) ∧
      (∀ earlier o later r, steps = earlier ++ .update o :: later →
        ((session.finish Store.after earlier).outcome Store.after (.update o)).result =
          .ok (.report r) →
        outputPath (session.finish Store.after earlier).workspace o = .ok r.outputPath ∧
          (Archive.lookUp (session.finish Store.after earlier).network (some userAgent) o.archive
            r.releaseName).result = .ok r.release) ∧
      ∀ earlier step later path b, steps = earlier ++ step :: later →
        Tells step ((session.finish Store.after earlier).outcome Store.after step).result path b →
        (b = true ↔
          ∃ text, (session.finish Store.after earlier).workspace.text? path = some text) := by
  refine ⟨fun p => ?_, fun _ _ _ _ _ h => ⟨outputPath_of_report h, release_of_report h⟩,
    fun _ _ _ _ _ _ h => replaced_iff h⟩
  -- on the steps: what the first one has set stands until a later one sets the path again
  induction steps generalizing session with
  | nil => exact Or.inr ⟨fun x hx => absurd hx List.not_mem_nil, rfl⟩
  | cons step steps ih =>
      rw [history_cons, finish_cons]
      rcases ih (session.next Store.after step) with
        ⟨earlier, step', result, later, text, hhistory, hsets, hlater, htext⟩ | ⟨hnone, htext⟩
      · -- some later step has set the path
        refine Or.inl ⟨(step, (session.outcome Store.after step).result) :: earlier, step', result,
          later, text, ?_, hsets, hlater, htext⟩
        rw [hhistory, List.cons_append]
      · -- no later step has, so the first one decides
        rcases accounts_outcome session step p with ⟨text, hsets, hset⟩ | ⟨hnot, hsame⟩
        · exact Or.inl ⟨[], step, _, _, text, rfl, hsets, hnone, htext.trans hset⟩
        · refine Or.inr ⟨?_, htext.trans hsame⟩
          intro x hx
          rcases List.mem_cons.mp hx with rfl | hx
          · exact hnot
          · exact hnone x hx

end StudioLookup.Session
