import StudioLookup.Files.Tree
import StudioLookup.Proofs.Archive.FirstFrame
import StudioLookup.Proofs.Archive.Link
import StudioLookup.Proofs.Update.Stages
import StudioLookup.Proofs.Web.Exchanges

set_option autoImplicit false

/-! # The kinds of failures

The kind of a failure tells a user what went wrong. `LookUpFails` and `UpdateFails` say, without
speaking of failures, when something goes wrong in a lookup and in an update and which kind it
is: one rule for each place where a stage can fail, with all that has gone well before it. The
main theorem, `update_failure_kinds`, is that failures are of these kinds in exactly these cases.

The lookup has one failure without a kind, that of an archive page whose URL cannot be read. It
does not come out of a lookup (`lookUp_ne_badArchiveUrl`): the client reads the same text as a URL
before it fetches the page, so a page that was fetched has a URL (`read_of_getText`).
-/

namespace StudioLookup

open Web

/-! ## Fetching a page -/

namespace Web

/-- An exchange fails where it stands or where it goes on. -/
theorem Exchange.andThen_eq_error_iff {α β : Type} {x : Exchange α} {next : α → Exchange β}
    {e : Failure} : (x.andThen next).result = .error e ↔
      x.result = .error e ∨ ∃ a, x.result = .ok a ∧ (next a).result = .error e := by
  unfold Exchange.andThen
  cases x.result with
  | error e' => simp
  | ok a => simp

variable {net : Network} {agent : Option Text} {asked : Text}

/-- A page that was fetched was asked for by a text that is a URL. -/
theorem read_of_getText {page : Text} (h : (getText net agent asked).result = .ok page) :
    ∃ u, Url.read asked = .ok u := by
  unfold getText send at h
  cases hread : Url.read asked with
  | ok u => exact ⟨u, rfl⟩
  | error e =>
      rw [hread] at h
      cases h

/-- A page that is not fetched is a fault of the network. -/
theorem kind?_of_getText_eq_error {e : Failure} (h : (getText net agent asked).result = .error e) :
    e.kind? = some .network := by
  obtain ⟨urls, a, hvisits⟩ := exists_visits net asked
  obtain ⟨sent, hyields, heq⟩ := getText_of_visits agent hvisits
  rw [heq] at h
  obtain ⟨fault, rfl, -⟩ := receive_eq_error hyields h
  rfl

end Web

/-! ## Looking into the pages -/

namespace Archive

/-- A page that was asked for by the text `url` shows a frame: the source of its first frame is a
URL as seen from the page. -/
def ShowsFrame (page url frame : Text) : Prop :=
  ∃ source base u, ShowsSource page source ∧ Url.read url = .ok base ∧
    base.join source = .ok u ∧ frame = u.toText

theorem frameUrl_eq_ok_iff {page url frame : Text} :
    frameUrl page url = .ok frame ↔ ShowsFrame page url frame := by
  unfold frameUrl ShowsFrame
  simp only [← frameSource?_eq_some_iff]
  cases frameSource? page with
  | none => simp
  | some source =>
      cases Url.read url with
      | error e => simp
      | ok base =>
          cases hjoin : base.join source with
          | error e => simp [hjoin]
          | ok u => simp [hjoin, eq_comm]

theorem frameUrl_eq_error_of_not_shows {page url : Text}
    (h : ∀ frame, ¬ ShowsFrame page url frame) : ∃ e, frameUrl page url = .error e := by
  cases hframe : frameUrl page url with
  | error e => exact ⟨e, rfl⟩
  | ok frame => exact absurd (frameUrl_eq_ok_iff.mp hframe) (h frame)

/-- A page whose URL can be read and that shows no frame is reported as one in which something is
not found. -/
theorem kind?_of_frameUrl_eq_error {page url : Text} {base : Url} {e : Failure}
    (hread : Url.read url = .ok base) (h : frameUrl page url = .error e) :
    e.kind? = some .notFound := by
  unfold frameUrl at h
  cases hsource : frameSource? page with
  | none =>
      rw [hsource] at h
      cases h
      rfl
  | some source =>
      rw [hsource, hread] at h
      dsimp only at h
      cases hjoin : base.join source with
      | error fault =>
          rw [hjoin] at h
          cases h
          rfl
      | ok u =>
          rw [hjoin] at h
          cases h

/-! ## The lookup -/

/-- When a lookup fails, and what kind of thing goes wrong. -/
inductive LookUpFails (net : Network) (agent : Option Text) (url name : Text) :
    FaultKind → Prop where
  /-- The archive page is not fetched. -/
  | archivePage {e : Failure} :
      (getText net agent url).result = .error e → LookUpFails net agent url name .network
  /-- The archive page shows no frame. -/
  | frame {page : Text} :
      (getText net agent url).result = .ok page → (∀ frame, ¬ ShowsFrame page url frame) →
      LookUpFails net agent url name .notFound
  /-- The page in the frame is not fetched. -/
  | framePage {page frame : Text} {e : Failure} :
      (getText net agent url).result = .ok page → ShowsFrame page url frame →
      (getText net agent frame).result = .error e → LookUpFails net agent url name .network
  /-- The page in the frame lists no release under the name. -/
  | release {page frame list : Text} :
      (getText net agent url).result = .ok page → ShowsFrame page url frame →
      (getText net agent frame).result = .ok list →
      (∀ before lead gap r, ¬ Lists list name before lead gap r) →
      LookUpFails net agent url name .notFound

section

variable {net : Network} {agent : Option Text} {url name : Text}

/-- A lookup fails with the failure of the first of its four stages that fails. -/
theorem lookUp_eq_error_iff {e : Failure} :
    (lookUp net agent url name).result = .error e ↔
      (getText net agent url).result = .error e ∨
        ∃ page, (getText net agent url).result = .ok page ∧
          (frameUrl page url = .error e ∨
            ∃ frame, frameUrl page url = .ok frame ∧
              ((getText net agent frame).result = .error e ∨
                ∃ list, (getText net agent frame).result = .ok list ∧
                  findRelease list name = .error e)) := by
  rw [lookUp, fetchFrameUrl, Exchange.andThen_assoc]
  simp only [fetchRelease, Exchange.andThen_eq_error_iff]
  exact Iff.rfl

/-- What a lookup fails with has a kind, and something of this kind has gone wrong in it. -/
theorem lookUpFails_of_eq_error {e : Failure}
    (h : (lookUp net agent url name).result = .error e) :
    ∃ kind, e.kind? = some kind ∧ LookUpFails net agent url name kind := by
  rcases lookUp_eq_error_iff.mp h with
    hpage | ⟨page, hpage, hframe | ⟨frame, hfound, hlist | ⟨list, hlist, hmissing⟩⟩⟩
  · exact ⟨_, kind?_of_getText_eq_error hpage, .archivePage hpage⟩
  · obtain ⟨base, hread⟩ := read_of_getText hpage
    refine ⟨_, kind?_of_frameUrl_eq_error hread hframe, .frame hpage fun frame hshows => ?_⟩
    rw [frameUrl_eq_ok_iff.mpr hshows] at hframe
    cases hframe
  · exact ⟨_, kind?_of_getText_eq_error hlist,
      .framePage hpage (frameUrl_eq_ok_iff.mp hfound) hlist⟩
  · obtain ⟨hnone, rfl⟩ := findRelease_eq_error_iff.mp hmissing
    exact ⟨_, rfl, .release hpage (frameUrl_eq_ok_iff.mp hfound) hlist hnone⟩

/-- A lookup fails exactly when something goes wrong in it, and with a failure of the kind that
belongs to it. -/
theorem lookUpFails_iff {kind : FaultKind} :
    LookUpFails net agent url name kind ↔
      ∃ e, (lookUp net agent url name).result = .error e ∧ e.kind? = some kind := by
  constructor
  · simp only [lookUp_eq_error_iff, frameUrl_eq_ok_iff]
    intro h
    cases h with
    | archivePage hpage => exact ⟨_, Or.inl hpage, kind?_of_getText_eq_error hpage⟩
    | frame hpage hnone =>
        obtain ⟨base, hread⟩ := read_of_getText hpage
        obtain ⟨e, hframe⟩ := frameUrl_eq_error_of_not_shows hnone
        exact ⟨e, Or.inr ⟨_, hpage, Or.inl hframe⟩, kind?_of_frameUrl_eq_error hread hframe⟩
    | framePage hpage hshows hlist =>
        exact ⟨_, Or.inr ⟨_, hpage, Or.inr ⟨_, hshows, Or.inl hlist⟩⟩,
          kind?_of_getText_eq_error hlist⟩
    | release hpage hshows hlist hnone =>
        have hmissing := findRelease_eq_error_iff.mpr ⟨hnone, rfl⟩
        exact ⟨_, Or.inr ⟨_, hpage, Or.inr ⟨_, hshows, Or.inr ⟨_, hlist, hmissing⟩⟩⟩, rfl⟩
  · rintro ⟨e, he, hkind⟩
    obtain ⟨kind', hkind', hfails⟩ := lookUpFails_of_eq_error he
    obtain rfl : kind' = kind := Option.some.inj (hkind'.symm.trans hkind)
    exact hfails

theorem LookUpFails.network_or_notFound {kind : FaultKind}
    (h : LookUpFails net agent url name kind) : kind = .network ∨ kind = .notFound := by
  cases h with
  | archivePage => exact Or.inl rfl
  | frame => exact Or.inr rfl
  | framePage => exact Or.inl rfl
  | release => exact Or.inr rfl

/-- The unreadable URL of an archive page is not what a lookup reports. -/
theorem lookUp_ne_badArchiveUrl {e : Failure}
    (h : (lookUp net agent url name).result = .error e) (asked : Text) (fault : UrlFault) :
    e ≠ badArchiveUrl asked fault := by
  rintro rfl
  obtain ⟨kind, hkind, -⟩ := lookUpFails_of_eq_error h
  cases hkind

end

end Archive

/-! ## The update -/

open Archive

/-- When an update fails, and what kind of thing goes wrong, if it has a kind. -/
inductive UpdateFails {σ : Type} [Workspace σ] (net : Network) (s : σ) (o : Options) :
    Option FaultKind → Prop where
  /-- There is no current directory to take paths from. -/
  | directory {e : Failure} :
      Workspace.currentDirectory s = .error e → UpdateFails net s o none
  /-- The version has no release name. -/
  | version {cwd : Text} {e : Failure} :
      Workspace.currentDirectory s = .ok cwd → releaseName o.version = .error e →
      UpdateFails net s o (some .format)
  /-- The lookup fails. -/
  | lookUp {cwd name : Text} {kind : FaultKind} :
      Workspace.currentDirectory s = .ok cwd → releaseName o.version = .ok name →
      LookUpFails net (some userAgent) o.archive name kind → UpdateFails net s o (some kind)
  /-- The file cannot be written. -/
  | write {cwd name : Text} {release : Release} {e : Failure} :
      Workspace.currentDirectory s = .ok cwd → releaseName o.version = .ok name →
      (Archive.lookUp net (some userAgent) o.archive name).result = .ok release →
      o.dryRun = false →
      Workspace.write s (outputPathFrom cwd o) (Properties.render o.version release) = .error e →
      UpdateFails net s o (some .io)

section

variable {σ : Type} [Workspace σ] {net : Network} {s : σ} {o : Options}

/-- The last stage fails exactly when a write is refused. -/
theorem deliver_eq_error_iff {path version name : Text} {dryRun : Bool} {requests : List Request}
    {release : Release} {e : Failure} :
    (deliver s path version name dryRun requests release).result = .error e ↔
      dryRun = false ∧ ∃ e', Workspace.write s path (Properties.render version release) = .error e' ∧
        e = writeFailure path e' := by
  unfold deliver writeProperties
  cases dryRun with
  | true => simp
  | false =>
      cases Workspace.write s path (Properties.render version release) with
      | ok s' => simp
      | error e' => simp [Outcome.failed, eq_comm]

/-- An update fails with the failure of the first of its stages that fails. -/
theorem update_eq_error_iff {e : Failure} :
    (update net s o).result = .error e ↔
      Workspace.currentDirectory s = .error e ∨
        ∃ cwd, Workspace.currentDirectory s = .ok cwd ∧
          (releaseName o.version = .error e ∨
            ∃ name, releaseName o.version = .ok name ∧
              ((lookUp net (some userAgent) o.archive name).result = .error e ∨
                ∃ release, (lookUp net (some userAgent) o.archive name).result = .ok release ∧
                  o.dryRun = false ∧ ∃ e', Workspace.write s (outputPathFrom cwd o)
                    (Properties.render o.version release) = .error e' ∧
                      e = writeFailure (outputPathFrom cwd o) e')) := by
  cases hcwd : Workspace.currentDirectory s with
  | error e' => simp [update, outputPath, hcwd, Outcome.failed]
  | ok cwd =>
      cases hname : releaseName o.version with
      | error e' => simp [update, outputPath, hcwd, runUpdate, hname, Outcome.failed]
      | ok name =>
          rw [update_eq_conclude net (outputPath_of_directory hcwd) hname]
          unfold conclude
          cases hfound : (lookUp net (some userAgent) o.archive name).result with
          | error e' => simp [hfound, Outcome.failed]
          | ok release => simp [hfound, deliver_eq_error_iff]

/-- An update fails exactly when something goes wrong in it, and with a failure of the kind that
belongs to it, as long as a missing directory is reported without a kind. -/
theorem updateFails_iff (hdirectory : ∀ e, Workspace.currentDirectory s = .error e → e.kind? = none)
    {kind : Option FaultKind} : UpdateFails net s o kind ↔
      ∃ e, (update net s o).result = .error e ∧ e.kind? = kind := by
  simp only [update_eq_error_iff]
  constructor
  · intro h
    cases h with
    | directory hcwd => exact ⟨_, Or.inl hcwd, hdirectory _ hcwd⟩
    | version hcwd hname =>
        exact ⟨_, Or.inr ⟨_, hcwd, Or.inl hname⟩, kind?_of_releaseName_eq_error hname⟩
    | lookUp hcwd hname hlookUp =>
        obtain ⟨e, he, hkind⟩ := lookUpFails_iff.mp hlookUp
        exact ⟨e, Or.inr ⟨_, hcwd, Or.inr ⟨_, hname, Or.inl he⟩⟩, hkind⟩
    | write hcwd hname hfound hdry hwrite =>
        exact ⟨_, Or.inr ⟨_, hcwd, Or.inr ⟨_, hname, Or.inr ⟨_, hfound, hdry, _, hwrite, rfl⟩⟩⟩, rfl⟩
  · rintro ⟨e, hcwd | ⟨cwd, hcwd, hname | ⟨name, hname, hlookUp | ⟨release, hfound, hdry, e', hwrite,
      rfl⟩⟩⟩, rfl⟩
    · rw [hdirectory e hcwd]
      exact .directory hcwd
    · rw [kind?_of_releaseName_eq_error hname]
      exact .version hcwd hname
    · obtain ⟨kind, hkind, hfails⟩ := lookUpFails_of_eq_error hlookUp
      rw [hkind]
      exact .lookUp hcwd hname hfails
    · exact .write hcwd hname hfound hdry hwrite

end

/-- A store without directory reports it without a kind. -/
theorem Store.kind?_of_currentDirectory {s : Store} {e : Failure}
    (h : Workspace.currentDirectory s = .error e) : e.kind? = none := by
  obtain ⟨directory, files, refusals⟩ := s
  cases directory with
  | some d => cases h
  | none =>
      change Except.error Store.noDirectory = .error e at h
      cases h
      rfl

/-- A tree whose standpoint is gone reports it without a kind. -/
theorem Tree.kind?_of_currentDirectory {t : Tree} {e : Failure}
    (h : Workspace.currentDirectory t = .error e) : e.kind? = none := by
  change t.currentDirectory = .error e at h
  unfold Tree.currentDirectory at h
  by_cases hlost : t.standpoint.lost = 0
  · rw [if_pos hlost] at h
    cases h
  · rw [if_neg hlost] at h
    cases h
    rfl

/-- **Failures are of the right kind.** A lookup fails when one of its pages is not fetched, with
a fault of the network, or when one of them does not hold what it is searched for, and in no other
way. So the failure of an update, on a store and on a tree of directories, has no kind exactly
when there is no current directory, and otherwise the kind of the first thing that goes wrong: the
form of the version, the network, something that is not found, and last the writing of the file. -/
theorem update_failure_kinds (net : Network) :
    (∀ agent url name,
      (∀ kind, LookUpFails net agent url name kind ↔
        ∃ e, (lookUp net agent url name).result = .error e ∧ e.kind? = some kind) ∧
      ∀ e, (lookUp net agent url name).result = .error e →
        (e.kind? = some .network ∨ e.kind? = some .notFound) ∧
          ∀ asked fault, e ≠ badArchiveUrl asked fault) ∧
    (∀ (s : Store) o kind, UpdateFails net s o kind ↔
      ∃ e, (update net s o).result = .error e ∧ e.kind? = kind) ∧
    ∀ (t : Tree) o kind, UpdateFails net t o kind ↔
      ∃ e, (update net t o).result = .error e ∧ e.kind? = kind := by
  refine ⟨fun agent url name => ⟨fun kind => lookUpFails_iff, fun e he => ⟨?_, ?_⟩⟩,
    fun s o kind => updateFails_iff fun _ => Store.kind?_of_currentDirectory,
    fun t o kind => updateFails_iff fun _ => Tree.kind?_of_currentDirectory⟩
  · obtain ⟨kind, hkind, hfails⟩ := lookUpFails_of_eq_error he
    rw [hkind]
    exact hfails.network_or_notFound.imp (congrArg some) (congrArg some)
  · exact lookUp_ne_badArchiveUrl he

end StudioLookup
