import StudioLookup.Archive.Listing
import StudioLookup.Proofs.Pattern.Placement
import StudioLookup.Proofs.Text.Occurrences
import StudioLookup.Proofs.Text.Pieces

set_option autoImplicit false

/-! # Download links and the lookup of a release

`Release.link` writes the download link of a release. With it the lookup can be said in terms of
the page: the page *lists* a release under a name at a place (`Lists`) if the name stands alone
there and the link of the release comes after it, and `findRelease?_eq_some_iff` says that the
lookup yields the release of the least of these places. Among the links that begin at one place it
is the shortest that counts, and `Release.hasShortestLink` says which links are: those in which no
part holds what ends the part.
-/

namespace StudioLookup

open Archive

namespace Release

/-- The download link of a release for Windows. -/
def link (r : Release) : Text :=
  linkOpening ++ r.version ++ linkProduct ++ r.ideaMajorVersion ++ '.' :: r.buildNumber ++
    linkEnding

/-- The download link of a release up to its ending, which is that of a platform. -/
def stem (r : Release) : Text :=
  linkOpening ++ r.version ++ linkProduct ++ r.ideaMajorVersion ++ '.' :: r.buildNumber

theorem link_eq_stem_append (r : Release) : r.link = r.stem ++ linkEnding := rfl

/-- The three parts of a release stand on one line. -/
def OnOneLine (r : Release) : Prop :=
  '\n' ∉ r.version ∧ '\n' ∉ r.ideaMajorVersion ∧ '\n' ∉ r.buildNumber

/-- The three parts of a release, in the order of its link. -/
def parts (r : Release) : List Text := [r.version, r.ideaMajorVersion, r.buildNumber]

theorem parts_injective {r r' : Release} (h : r.parts = r'.parts) : r = r' := by
  cases r
  cases r'
  simpa [parts] using h

theorem link_append (r : Release) (t : Text) :
    r.link ++ t = linkOpening ++ (r.version ++ (linkProduct ++ (r.ideaMajorVersion ++
      ('.' :: (r.buildNumber ++ (linkEnding ++ t)))))) := by
  simp only [link, List.append_assoc, List.cons_append]

theorem mem_link_iff {r : Release} {c : Char} :
    c ∈ r.link ↔ c ∈ linkOpening ∨ c ∈ r.version ∨ c ∈ linkProduct ∨ c ∈ r.ideaMajorVersion ∨
      c = '.' ∨ c ∈ r.buildNumber ∨ c ∈ linkEnding := by
  simp [link]

theorem link_ne_nil (r : Release) : r.link ≠ [] := by
  intro h
  rw [← List.append_nil r.link, link_append] at h
  exact absurd (List.append_eq_nil_iff.mp h).1 (by decide)

theorem not_lineFeed_mem_link {r : Release} (h : r.OnOneLine) : '\n' ∉ r.link := by
  obtain ⟨hv, hi, hb⟩ := h
  have ho : '\n' ∉ linkOpening := by decide
  have hp : '\n' ∉ linkProduct := by decide
  have he : '\n' ∉ linkEnding := by decide
  have hd : '\n' ≠ '.' := by decide
  simp [mem_link_iff, hv, hi, hb, ho, hp, he, hd]

theorem linkEnding_infix_link (r : Release) : linkEnding <:+: r.link :=
  ⟨linkOpening ++ r.version ++ linkProduct ++ r.ideaMajorVersion ++ '.' :: r.buildNumber, [],
    by simp [link]⟩

end Release

/-! ## Where a link ends -/

/-- A text without the character `c` ends, before `c`, no later than any other text that ends
before `c` in the same text. -/
theorem length_lt_or_eq_of_append_cons {v v' s s' : Text} {c : Char} (hc : c ∉ v)
    (h : v ++ c :: s = v' ++ c :: s') : v.length < v'.length ∨ (v = v' ∧ s = s') := by
  rcases Text.append_cons_cases h with ⟨hv, -, hs⟩ | ⟨m, hv'⟩ | ⟨m, hv⟩
  · exact Or.inr ⟨hv, hs⟩
  · rw [hv']
    exact Or.inl (by simp)
  · exact absurd (by rw [hv]; simp) hc

/-- In a text that goes on with the ending of a link, no such ending begins earlier. -/
def EndsFirst (b : Text) : Prop :=
  ∀ s u v, b ++ (linkEnding ++ s) = u ++ (linkEnding ++ v) → b.length ≤ u.length

/-- The ending of a link cannot overlap with itself, so it begins first behind all texts that do not
hold it. -/
theorem endsFirst_iff {b : Text} : EndsFirst b ↔ ¬ linkEnding <:+: b := by
  have hending : linkEnding = '-' :: linkEnding.tail := rfl
  have hdash : '-' ∉ linkEnding.tail := by decide
  have hfirst : ∀ s,
      Text.FirstAt linkEnding (b ++ (linkEnding ++ s)) b s ↔ ¬ linkEnding <:+: b := by
    intro s
    rw [hending]
    exact Text.firstAt_append_iff hdash
  constructor
  · intro h
    exact (hfirst []).mp ⟨rfl, h []⟩
  · intro hb s
    exact ((hfirst s).mpr hb).2

theorem endsFirst_of_not_mem {b : Text} (h : '-' ∉ b) : EndsFirst b := by
  rw [endsFirst_iff]
  intro hin
  have hdash : '-' ∈ linkEnding := by decide
  exact h (hin.subset hdash)

/-- No ending begins in a text that holds none, nor reaches over a character it does not have. -/
theorem EndsFirst.behind {b : Text} (h : EndsFirst b) {a : Text} {c : Char}
    (ha : ¬ linkEnding <:+: a) (hc : c ∉ linkEnding) : EndsFirst (a ++ c :: b) := by
  rw [endsFirst_iff] at h ⊢
  exact Text.not_infix_append_cons hc ha h

namespace Release

/-- No link that begins where the link of the release begins is shorter. -/
def HasShortestLink (r : Release) : Prop :=
  ∀ (r' : Release) (s s' : Text), r.link ++ s = r'.link ++ s' → NoLonger r.parts r'.parts

/-- A link is the shortest if no part of it holds what ends the part. -/
theorem hasShortestLink {r : Release} (hv : '/' ∉ r.version) (hi : '.' ∉ r.ideaMajorVersion)
    (hb : EndsFirst r.buildNumber) : r.HasShortestLink := by
  intro r' s s' h
  have hproduct : linkProduct = '/' :: linkProduct.tail := rfl
  rw [r.link_append, r'.link_append] at h
  -- part by part, as long as the parts before are the same
  have hfirst := List.append_cancel_left h
  rw [hproduct, List.cons_append, List.cons_append] at hfirst
  rcases length_lt_or_eq_of_append_cons hv hfirst with hlt | ⟨hversion, htail⟩
  · exact Or.inl hlt
  · refine Or.inr ⟨congrArg List.length hversion, ?_⟩
    have hsecond := List.append_cancel_left htail
    rcases length_lt_or_eq_of_append_cons hi hsecond with hlt | ⟨hidea, hthird⟩
    · exact Or.inl hlt
    · refine Or.inr ⟨congrArg List.length hidea, ?_⟩
      rcases Nat.lt_or_eq_of_le (hb s r'.buildNumber s' hthird) with hlt | hbuild
      · exact Or.inl hlt
      · exact Or.inr ⟨hbuild, trivial⟩

end Release

/-! ## Places where a page lists a release -/

namespace Archive

/-- A way to find a release under a name in a page: the name stands alone after `before` and the
boundary `lead`, and after one more character and `gap` comes the link of the release. -/
def Lists (page name before lead gap : Text) (r : Release) : Prop :=
  ∃ c rest, page = before ++ (lead ++ (name ++ c :: (gap ++ (r.link ++ rest)))) ∧
    Leads (some nameLeading) before.isEmpty lead ∧ c.isDigit = false ∧ r.OnOneLine

/-- Whether a text ends within a dotted number. -/
def endsInNumber (u : Text) : Bool := u.getLast?.any fun c => c.isDigit || c == '.'

/-- A name may begin behind all that does not end within a number. -/
theorem exists_leads_iff {u : Text} :
    (∃ before lead, u = before ++ lead ∧ Leads (some nameLeading) before.isEmpty lead) ↔
      endsInNumber u = false := by
  constructor
  · rintro ⟨before, lead, rfl, ⟨hempty, rfl⟩ | ⟨c, hc, rfl⟩⟩
    · rw [List.isEmpty_iff.mp hempty]
      rfl
    · simpa [endsInNumber, nameLeading, CharClass.contains] using hc
  · intro h
    rcases List.eq_nil_or_concat u with rfl | ⟨before, c, rfl⟩
    · exact ⟨[], [], rfl, Or.inl ⟨rfl, rfl⟩⟩
    · rw [List.concat_eq_append] at h ⊢
      refine ⟨before, [c], rfl, Or.inr ⟨c, ?_, rfl⟩⟩
      simpa [endsInNumber, nameLeading, CharClass.contains] using h

theorem forall_inLine_iff {g : Text} :
    (∀ c ∈ g, CharClass.inLine.contains c = true) ↔ '\n' ∉ g := by
  constructor
  · intro h hmem
    exact absurd (h _ hmem) (by decide)
  · intro h c hc
    rw [CharClass.contains, bne_iff_ne, ne_eq]
    rintro rfl
    exact h hc

/-- The parts of a link lie in a text as the link of a release after a gap. -/
theorem fits_linkParts_iff {gs : List Text} {t : Text} :
    Fits linkParts gs t ↔
      ∃ gap r rest, gs = gap :: r.parts ∧ t = gap ++ (r.link ++ rest) ∧ Release.OnOneLine r := by
  unfold linkParts
  simp only [fits_gap_iff, fits_capture_iff, fits_literal_iff, forall_inLine_iff]
  constructor
  · rintro ⟨gap, _, _, rfl, rfl, -, _, rfl, v, _, _, rfl, rfl, hv, _, rfl, i, _, _, rfl, rfl, hi,
      _, rfl, b, _, _, rfl, rfl, hb, rest, rfl, hfit⟩
    cases hfit
    exact ⟨gap, ⟨v, i, b⟩, rest, rfl, by rw [Release.link_append]; rfl, hv, hi, hb⟩
  · rintro ⟨gap, r, rest, rfl, rfl, hv, hi, hb⟩
    refine ⟨gap, r.parts, _, rfl, rfl, fun _ _ => rfl, _, r.link_append rest, _, _, _, rfl, rfl, hv,
      _, rfl, _, _, _, rfl, rfl, hi, _, rfl, _, _, _, rfl, rfl, hb, rest, rfl, .nil rest⟩

theorem placed_releasePattern_iff {page name before lead : Text} {gs : List Text} :
    Placed (releasePattern name) page before lead gs ↔
      ∃ gap r, gs = gap :: Release.parts r ∧ Lists page name before lead gap r := by
  constructor
  · rintro ⟨_, rfl, hlead, hfit⟩
    obtain ⟨_, rfl, hafter⟩ := fits_literal_iff.mp hfit
    obtain ⟨c, _, rfl, hc, hlink⟩ := fits_one_iff.mp hafter
    obtain ⟨gap, r, rest, rfl, rfl, hline⟩ := fits_linkParts_iff.mp hlink
    exact ⟨gap, r, rfl, c, rest, rfl, hlead, by simpa [nameTrailing, CharClass.contains] using hc,
      hline⟩
  · rintro ⟨gap, r, rfl, c, rest, rfl, hlead, hc, hline⟩
    have hlink := fits_linkParts_iff.mpr ⟨gap, r, rest, rfl, rfl, hline⟩
    refine ⟨_, rfl, hlead, .literal name (.one ?_ hlink)⟩
    simp [nameTrailing, CharClass.contains, hc]

/-- A search that finds something finds the three parts of a release. -/
theorem findRelease?_eq_some_iff_find? {page name : Text} {r : Release} :
    findRelease? page name = some r ↔ (releasePattern name).find? page = some r.parts := by
  unfold findRelease?
  constructor
  · intro h
    split at h
    · rename_i v i b hfind
      rw [hfind, ← Option.some.inj h]
      rfl
    · cases h
  · intro h
    rw [h]
    rfl

/-- **What a lookup finds**: the release of the least place where the page lists one. -/
theorem findRelease?_eq_some_iff {page name : Text} {r : Release} :
    findRelease? page name = some r ↔
      ∃ before lead gap, Lists page name before lead gap r ∧
        ∀ before' lead' gap' r', Lists page name before' lead' gap' r' →
          NoLonger (before :: lead :: gap :: r.parts) (before' :: lead' :: gap' :: r'.parts) := by
  rw [findRelease?_eq_some_iff_find?, Pattern.find?_eq_some_iff]
  constructor
  · rintro ⟨before, lead, gs, hplaced, hcaptured, hleast⟩
    obtain ⟨gap, r', rfl, hlists⟩ := placed_releasePattern_iff.mp hplaced
    obtain rfl : r' = r := Release.parts_injective hcaptured
    refine ⟨before, lead, gap, hlists, fun before' lead' gap' r'' hlists' => ?_⟩
    exact hleast before' lead' _ (placed_releasePattern_iff.mpr ⟨gap', r'', rfl, hlists'⟩)
  · rintro ⟨before, lead, gap, hlists, hleast⟩
    refine ⟨before, lead, gap :: r.parts,
      placed_releasePattern_iff.mpr ⟨gap, r, rfl, hlists⟩, rfl, ?_⟩
    intro before' lead' gs' hplaced'
    obtain ⟨gap', r', rfl, hlists'⟩ := placed_releasePattern_iff.mp hplaced'
    exact hleast before' lead' gap' r' hlists'

/-- A lookup fails exactly when the page does not list a release under the name anywhere. -/
theorem findRelease?_eq_none_iff {page name : Text} :
    findRelease? page name = none ↔ ∀ before lead gap r, ¬ Lists page name before lead gap r := by
  constructor
  · intro h before lead gap r hlists
    have hplaced := placed_releasePattern_iff.mpr ⟨gap, r, rfl, hlists⟩
    -- a match always has the three parts of a release, so it would be an answer
    cases hfind : (releasePattern name).find? page with
    | none => exact Pattern.find?_eq_none_iff.mp hfind _ _ _ hplaced
    | some cs =>
        obtain ⟨_, _, _, hfound, rfl, -⟩ := Pattern.find?_eq_some_iff.mp hfind
        obtain ⟨gap', r', rfl, -⟩ := placed_releasePattern_iff.mp hfound
        rw [(findRelease?_eq_some_iff_find? (r := r')).mpr hfind] at h
        cases h
  · intro h
    cases hr : findRelease? page name with
    | none => rfl
    | some r =>
        obtain ⟨before, lead, gap, hlists, -⟩ := findRelease?_eq_some_iff.mp hr
        exact absurd hlists (h before lead gap r)

theorem findRelease_eq_ok_iff {page name : Text} {r : Release} :
    findRelease page name = .ok r ↔ findRelease? page name = some r := by
  unfold findRelease
  cases findRelease? page name with
  | none => simp
  | some r' => simp

theorem findRelease_eq_error_iff {page name : Text} {e : Failure} :
    findRelease page name = .error e ↔
      (∀ before lead gap r, ¬ Lists page name before lead gap r) ∧ e = missingRelease name := by
  rw [← findRelease?_eq_none_iff]
  unfold findRelease
  cases findRelease? page name with
  | none => simp [eq_comm]
  | some r => simp

end Archive

end StudioLookup
