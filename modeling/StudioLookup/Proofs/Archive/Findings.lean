import Mathlib.Data.List.Lex
import StudioLookup.Proofs.Archive.Link

set_option autoImplicit false

/-! # The ways to find a release in a page

A page can be cut in many ways at a name that stands alone and at a link behind it. A `Finding` is
one of them, with all the pieces of the page. The findings are ordered by the lengths of their
pieces, an earlier piece counting before a later one, and `findRelease_eq_first` says that the
lookup answers with the release of the first finding in this order, of which there is only one, and
fails when there is no finding at all.
-/

namespace StudioLookup

/-- Of two sequences with equally many texts, one is no longer than the other when its lengths come
first in the order of lists. -/
theorem noLonger_iff_map_length_le {gs gs' : List Text} (h : gs.length = gs'.length) :
    NoLonger gs gs' ↔ gs.map List.length ≤ gs'.map List.length := by
  induction gs generalizing gs' with
  | nil =>
      obtain rfl := List.length_eq_zero_iff.mp h.symm
      exact ⟨fun _ => le_refl _, fun _ => trivial⟩
  | cons g gs ih =>
      cases gs' with
      | nil => cases h
      | cons g' gs' =>
          have htail := ih (Nat.succ.inj h)
          rw [← not_lt] at htail
          rw [List.map_cons, List.map_cons, ← not_lt, List.cons_lt_cons_iff, NoLonger, htail]
          by_cases hrest : gs'.map List.length < gs.map List.length
          · simp only [hrest, not_true_eq_false, and_false, and_true, or_false]
            omega
          · simp only [hrest, not_false_eq_true, and_false, and_true, or_false]
            omega

namespace Archive

/-- A way to cut a page at a name and at the link of a release behind it. -/
structure Finding where
  /-- What stands before the name and its boundary. -/
  before : Text
  /-- The character of the boundary, which only the start of the page may do without. -/
  lead : Option Char
  /-- The character behind the name. -/
  trailing : Char
  /-- What stands between that character and the link. -/
  gap : Text
  release : Release
  /-- What stands behind the link. -/
  after : Text

namespace Finding

/-- The pieces make up the page, the name stands alone, and the link stands on one line. -/
structure IsIn (f : Finding) (page name : Text) : Prop where
  page_eq : page =
    f.before ++ f.lead.toList ++ name ++ f.trailing :: f.gap ++ f.release.link ++ f.after
  lead_spec : (f.before = [] ∧ f.lead = none) ∨
    ∃ c, f.lead = some c ∧ c.isDigit = false ∧ c ≠ '.'
  trailing_spec : f.trailing.isDigit = false
  release_spec : '\n' ∉ f.release.version ∧ '\n' ∉ f.release.ideaMajorVersion ∧
    '\n' ∉ f.release.buildNumber

/-- The lengths by which findings are ordered. -/
def lengths (f : Finding) : List Nat :=
  [f.before.length, f.lead.toList.length, f.gap.length, f.release.version.length,
    f.release.ideaMajorVersion.length, f.release.buildNumber.length]

/-- The first finding of a name in a page. -/
def IsFirst (f : Finding) (page name : Text) : Prop :=
  f.IsIn page name ∧ ∀ f' : Finding, f'.IsIn page name → f.lengths ≤ f'.lengths

/-- The pieces whose lengths count. -/
def pieces (f : Finding) : List Text := f.before :: f.lead.toList :: f.gap :: f.release.parts

theorem lengths_le_iff {f f' : Finding} :
    f.lengths ≤ f'.lengths ↔ NoLonger f.pieces f'.pieces := by
  have hlength : f.pieces.length = f'.pieces.length := rfl
  exact (noLonger_iff_map_length_le hlength).symm

variable {f f' : Finding} {page name : Text}

theorem IsIn.lists (h : f.IsIn page name) :
    Lists page name f.before f.lead.toList f.gap f.release := by
  refine ⟨f.trailing, f.after, by rw [h.page_eq]; simp, ?_, h.trailing_spec, h.release_spec⟩
  rcases h.lead_spec with ⟨hbefore, hlead⟩ | ⟨c, hlead, hc⟩
  · exact Or.inl ⟨by rw [hbefore]; rfl, by rw [hlead]; rfl⟩
  · refine Or.inr ⟨c, ?_, by rw [hlead]; rfl⟩
    simpa [nameLeading, CharClass.contains] using hc

/-- Every place where a page lists a release comes with a finding. -/
theorem exists_isIn_of_lists {before lead gap : Text} {r : Release}
    (h : Lists page name before lead gap r) :
    ∃ f : Finding, f.IsIn page name ∧ f.pieces = before :: lead :: gap :: r.parts ∧
      f.release = r := by
  obtain ⟨trailing, after, hpage, ⟨hempty, rfl⟩ | ⟨c, hc, rfl⟩, htrailing, hline⟩ := h
  · refine ⟨⟨before, none, trailing, gap, r, after⟩, ⟨by rw [hpage]; simp, ?_, htrailing, hline⟩,
      rfl, rfl⟩
    exact Or.inl ⟨List.isEmpty_iff.mp hempty, rfl⟩
  · refine ⟨⟨before, some c, trailing, gap, r, after⟩, ⟨by rw [hpage]; simp, ?_, htrailing, hline⟩,
      rfl, rfl⟩
    exact Or.inr ⟨c, rfl, by simpa [nameLeading, CharClass.contains] using hc⟩

/-- There is no more than one first finding. -/
theorem IsFirst.unique (h : f.IsFirst page name) (h' : f'.IsFirst page name) : f = f' := by
  have hplaced := placed_releasePattern_iff.mpr ⟨_, _, rfl, h.1.lists⟩
  have hplaced' := placed_releasePattern_iff.mpr ⟨_, _, rfl, h'.1.lists⟩
  obtain ⟨hbefore, hlead, hgaps⟩ := Pattern.placedFrom_unique hplaced hplaced'
    (lengths_le_iff.mp (h.2 f' h'.1)) (lengths_le_iff.mp (h'.2 f h.1))
  obtain ⟨hgap, hparts⟩ := List.cons.inj hgaps
  -- what is left of the page, the character behind the name and the end, is the same as well
  have hrelease := Release.parts_injective hparts
  have hpage := h.1.page_eq.symm.trans h'.1.page_eq
  rw [hbefore, hlead, hgap, hrelease] at hpage
  simp only [List.append_assoc, List.cons_append, List.append_cancel_left_eq, List.cons.injEq]
    at hpage
  obtain ⟨before, lead, trailing, gap, release, after⟩ := f
  obtain ⟨before', lead', trailing', gap', release', after'⟩ := f'
  obtain ⟨rfl, rfl⟩ := hpage
  obtain rfl : lead = lead' := by simpa using congrArg List.head? hlead
  cases hbefore
  cases hgap
  cases hrelease
  rfl

end Finding

/-- **The lookup answers with the first finding.** If a page has no finding of a name, the release
is reported as missing, by its name. Otherwise one finding comes before all others in the order of
the lengths of what stands before the boundary, the boundary, the gap and the three parts of the
link, and its release is the answer. -/
theorem findRelease_eq_first (page name : Text) :
    ((∀ f : Finding, ¬ f.IsIn page name) ∧
        findRelease page name = .error (.ofKind .notFound
          ("no download link for '".toList ++ name ++ "' in release list".toList))) ∨
      ∃ f : Finding, f.IsFirst page name ∧ (∀ f' : Finding, f'.IsFirst page name → f' = f) ∧
        findRelease page name = .ok f.release := by
  cases hfind : findRelease? page name with
  | none =>
      have hnone := findRelease?_eq_none_iff.mp hfind
      exact Or.inl ⟨fun f hf => hnone _ _ _ _ hf.lists, by rw [findRelease, hfind]; rfl⟩
  | some r =>
      obtain ⟨before, lead, gap, hlists, hleast⟩ := findRelease?_eq_some_iff.mp hfind
      obtain ⟨f, hf, hpieces, hrelease⟩ := Finding.exists_isIn_of_lists hlists
      have hfirst : f.IsFirst page name := by
        refine ⟨hf, fun f' hf' => Finding.lengths_le_iff.mpr ?_⟩
        rw [hpieces]
        exact hleast _ _ _ _ hf'.lists
      refine Or.inr ⟨f, hfirst, fun f' hf' => hf'.unique hfirst, ?_⟩
      rw [findRelease, hfind, hrelease]

end Archive

end StudioLookup
