import StudioLookup.Proofs.Archive.Blocks

set_option autoImplicit false

/-! # Links for other platforms

A release has a link for each platform, and they begin alike. Below a name stand here a link for
another platform and, after any text, a link for Windows (`twoLinks`). What the lookup answers
depends on whether there is a line feed between them (`findRelease_twoLinks`). With one, the first
link cannot reach its end and is skipped. Without one, the parts of a link may take in all that
stands between: the version is that of the first link, and the number of the build goes on up to the
ending of the second (`blended`), so the three parts are those of no release
(`findRelease?_twoLinks_sameLine`).
-/

namespace StudioLookup

open Archive

namespace Archive

/-! ## Two links below a name -/

/-- What the links for other platforms end with. -/
def otherEndings : List Text :=
  ["-linux.tar.gz".toList, "-mac.zip".toList, "-mac.dmg".toList]

/-- The host of all download links. -/
def linkHost : Text := "https://dl.google.com/".toList

theorem exists_link_eq_host_append (r : Release) : ∃ t, r.link = linkHost ++ t := by
  have hopening : linkOpening = linkHost ++ linkOpening.drop linkHost.length := by decide
  refine ⟨linkOpening.drop linkHost.length ++ (r.version ++ (linkProduct ++ (r.ideaMajorVersion ++
    ('.' :: (r.buildNumber ++ (linkEnding ++ [])))))), ?_⟩
  rw [← List.append_assoc, ← hopening, ← r.link_append, List.append_nil]

/-- A name, below it a link of `r` with another ending, some text, and the link of `r'`. -/
def twoLinks (name ending between : Text) (r r' : Release) : Text :=
  name ++ '\n' :: (anchorOpening ++ (r.stem ++ (ending ++ (anchorClosing ++
    (between ++ linkLine r')))))

/-- What is read when the first of two links goes on into the second. -/
def blended (ending between : Text) (r r' : Release) : Release :=
  { r with buildNumber := r.buildNumber ++ (ending ++ (anchorClosing ++ (between ++
    (anchorOpening ++ r'.stem)))) }

/-! ## The first link below a name -/

/-- Below a name that stands on the first line, the lookup finds the first and shortest link. -/
theorem findRelease?_below {name t gap rest : Text} {r : Release} (hr : r.OnOneLine)
    (ht : t = gap ++ (r.link ++ rest))
    (hleast : ∀ gap' r' rest', Release.OnOneLine r' → t = gap' ++ (r'.link ++ rest') →
      NoLonger (gap :: r.parts) (gap' :: r'.parts)) :
    findRelease? (name ++ '\n' :: t) name = some r := by
  rw [findRelease?_eq_some_iff]
  refine ⟨[], [], gap, ⟨'\n', rest, by rw [ht]; rfl, Or.inl ⟨rfl, rfl⟩, by decide, hr⟩, ?_⟩
  rintro before' lead' gap' r' ⟨c, rest', hpage, -, -, hr'⟩
  -- no place comes before the start of the page
  cases before' with
  | cons d before' => exact Or.inl (by simp)
  | nil =>
      refine Or.inr ⟨rfl, ?_⟩
      cases lead' with
      | cons d lead' => exact Or.inl (by simp)
      | nil =>
          obtain ⟨-, htail⟩ := List.cons.inj (List.append_cancel_left hpage)
          exact Or.inr ⟨rfl, hleast gap' r' rest' hr' htail⟩

/-- Behind a text without the host of the links, the first link is that of the link line. -/
theorem noLonger_of_link_behind {s gap rest : Text} {r r' : Release} (hs : ¬ linkHost <:+: s)
    (hr : r.HasShortestLink) (h : s ++ linkLine r = gap ++ (r'.link ++ rest)) :
    NoLonger ((s ++ anchorOpening) :: r.parts) (gap :: r'.parts) := by
  have hline : linkLine r = '<' :: (linkLine r).tail := rfl
  obtain ⟨t, hlink⟩ := exists_link_eq_host_append r'
  -- a link begins with its host, which does not reach over the angle bracket
  rw [hline, hlink, List.append_assoc] at h
  obtain ⟨m, rfl, hm⟩ := Text.exists_of_append_cons_eq (by decide) (by decide) hs h
  have htail : linkLine r = ('<' :: m) ++ (r'.link ++ rest) := by
    rw [hline, hm, hlink, List.append_assoc]
    rfl
  exact (noLonger_in_linkLine hr htail).append_left s

/-! ## Where the link for Windows ends -/

/-- No ending for another platform has the first letter of `windows`, or a line feed. -/
theorem not_mem_of_mem_otherEndings {ending : Text} (h : ending ∈ otherEndings) :
    'w' ∉ ending ∧ '\n' ∉ ending := by
  have hendings : ∀ e ∈ otherEndings, 'w' ∉ e ∧ '\n' ∉ e := by decide
  exact hendings ending h

theorem not_linkEnding_infix_of_not_mem {t : Text} (h : 'w' ∉ t) : ¬ linkEnding <:+: t :=
  fun hwithin => h (hwithin.subset (by decide))

/-- No ending of a Windows link stands in an anchor for another platform and the text behind it. -/
theorem not_linkEnding_infix_other {r : Release} {ending s : Text} (hr : IsNumbered r)
    (hother : ending ∈ otherEndings) (hs : ¬ linkEnding <:+: s) :
    ¬ linkEnding <:+: anchorOpening ++ (r.stem ++ (ending ++ (anchorClosing ++ s))) := by
  have hstem : 'w' ∉ r.stem := hr.not_mem_stem (by decide) (by decide) (by decide) (by decide)
  have hopening : 'w' ∉ anchorOpening := by decide
  have hanchor : ¬ linkEnding <:+: anchorOpening ++ (r.stem ++ ending) :=
    not_linkEnding_infix_of_not_mem (by simp [hopening, hstem, not_mem_of_mem_otherEndings hother])
  have hsplit : anchorOpening ++ (r.stem ++ (ending ++ (anchorClosing ++ s))) =
      (anchorOpening ++ (r.stem ++ ending)) ++ '\x22' :: ([] ++ '>' :: s) := by
    have hclosing : anchorClosing = ['\x22', '>'] := rfl
    rw [hclosing]
    simp only [List.append_assoc, List.cons_append, List.nil_append]
  rw [hsplit]
  exact Text.not_infix_append_cons (by decide) hanchor
    (Text.not_infix_append_cons (by decide) (by decide) hs)

/-- In a link for Windows, the ending is the first one. -/
theorem endsFirst_stem {r : Release} (hr : IsNumbered r) :
    EndsFirst (anchorOpening.tail ++ r.stem) := by
  cases hidea : r.ideaMajorVersion with
  | nil =>
      have hnumeral := hr.idea_numeral
      rw [hidea] at hnumeral
      exact absurd hnumeral (by decide)
  | cons c idea =>
      have hsplit : anchorOpening.tail ++ r.stem = (anchorOpening.tail ++ (linkOpening ++
          (r.version ++ linkProduct))) ++ c :: (idea ++ '.' :: r.buildNumber) := by
        simp [Release.stem, hidea]
      have hdigits : ∀ d ∈ c :: idea, d.isDigit = true :=
        hidea ▸ List.all_eq_true.mp (Bool.and_eq_true_iff.mp hr.idea_numeral).2
      have hv : 'w' ∉ r.version := hr.not_mem_version (by decide) (by decide)
      have hb : '-' ∉ r.buildNumber := not_mem_of_isNumeral hr.build_numeral (by decide)
      have hi : '-' ∉ idea := fun hmem =>
        absurd (hdigits '-' (List.mem_cons_of_mem c hmem)) (by decide)
      have hending : linkEnding.all (fun d => !d.isDigit) = true := by decide
      have hc : c ∉ linkEnding := fun hmem => by
        have hdigit := hdigits c List.mem_cons_self
        have hother := List.all_eq_true.mp hending c hmem
        rw [hdigit] at hother
        cases hother
      have hbefore : ¬ linkEnding <:+: anchorOpening.tail ++ (linkOpening ++ (r.version ++
          linkProduct)) := by
        have hfixed : 'w' ∉ anchorOpening.tail ∧ 'w' ∉ linkOpening ∧ 'w' ∉ linkProduct := by decide
        exact not_linkEnding_infix_of_not_mem (by simp [hfixed, hv])
      rw [hsplit]
      exact (endsFirst_of_not_mem (by simp [hi, hb])).behind hbefore hc

/-- The blend of two links ends where the second does. -/
theorem endsFirst_blended {r r' : Release} {ending between : Text} (hr : IsNumbered r)
    (hr' : IsNumbered r') (hother : ending ∈ otherEndings) (hbetween : ¬ linkEnding <:+: between) :
    EndsFirst (blended ending between r r').buildNumber := by
  have hsplit : (blended ending between r r').buildNumber = (r.buildNumber ++ ending) ++ '\x22' ::
      ([] ++ '>' :: (between ++ '<' :: (anchorOpening.tail ++ r'.stem))) := by
    have hopening : anchorOpening = '<' :: anchorOpening.tail := rfl
    have hclosing : anchorClosing = ['\x22', '>'] := rfl
    rw [blended, hopening, hclosing]
    simp only [List.tail_cons, List.append_assoc, List.cons_append, List.nil_append]
  have hb : 'w' ∉ r.buildNumber := not_mem_of_isNumeral hr.build_numeral (by decide)
  have hfirst : ¬ linkEnding <:+: r.buildNumber ++ ending :=
    not_linkEnding_infix_of_not_mem (by simp [hb, not_mem_of_mem_otherEndings hother])
  -- from the second link back to the first
  have hsecond : EndsFirst (between ++ '<' :: (anchorOpening.tail ++ r'.stem)) :=
    (endsFirst_stem hr').behind hbetween (by decide)
  have hclosing : EndsFirst ([] ++ '>' :: (between ++ '<' :: (anchorOpening.tail ++ r'.stem))) :=
    hsecond.behind (by decide) (by decide)
  rw [hsplit]
  exact hclosing.behind hfirst (by decide)

theorem onOneLine_blended {r r' : Release} {ending between : Text} (hr : IsNumbered r)
    (hr' : IsNumbered r') (hother : ending ∈ otherEndings) (hbetween : '\n' ∉ between) :
    (blended ending between r r').OnOneLine := by
  obtain ⟨hv, hi, hb⟩ := hr.onOneLine
  have hopening : '\n' ∉ anchorOpening := by decide
  have hclosing : '\n' ∉ anchorClosing := by decide
  have hstem : '\n' ∉ r'.stem := hr'.not_mem_stem (by decide) (by decide) (by decide) (by decide)
  refine ⟨hv, hi, ?_⟩
  simp [blended, hb, not_mem_of_mem_otherEndings hother, hclosing, hbetween, hopening, hstem]

/-! ## What the lookup answers -/

/-- Two links on one line are read as one, of the blended release. -/
theorem linkLine_blended (ending between : Text) (r r' : Release) :
    linkLine (blended ending between r r') =
      anchorOpening ++ (r.stem ++ (ending ++ (anchorClosing ++ (between ++ linkLine r')))) := by
  simp [linkLine, blended, Release.link_eq_stem_append, Release.stem]

theorem findRelease?_twoLinks_sameLine (name : Text) {r r' : Release} {ending between : Text}
    (hr : IsNumbered r) (hr' : IsNumbered r') (hother : ending ∈ otherEndings)
    (hending : ¬ linkEnding <:+: between) (hline : '\n' ∉ between) :
    findRelease? (twoLinks name ending between r r') name = some (blended ending between r r') := by
  have hshortest : (blended ending between r r').HasShortestLink :=
    Release.hasShortestLink (hr.not_mem_version (by decide) (by decide))
      (not_mem_of_isNumeral hr.idea_numeral (by decide)) (endsFirst_blended hr hr' hother hending)
  rw [twoLinks, ← linkLine_blended]
  refine findRelease?_below (onOneLine_blended hr hr' hother hline) rfl ?_
  intro gap r'' rest _ h
  exact noLonger_in_linkLine hshortest h

theorem findRelease?_twoLinks_otherLine (name : Text) {r r' : Release} {ending s s' : Text}
    (hr : IsNumbered r) (hr' : IsNumbered r') (hother : ending ∈ otherEndings)
    (hhost : ¬ linkHost <:+: s') (hending : ¬ linkEnding <:+: s) :
    findRelease? (twoLinks name ending (s ++ '\n' :: s') r r') name = some r' := by
  have hsplit : anchorOpening ++ (r.stem ++ (ending ++ (anchorClosing ++
      ((s ++ '\n' :: s') ++ linkLine r')))) =
        (anchorOpening ++ (r.stem ++ (ending ++ (anchorClosing ++ s)))) ++ '\n' ::
          (s' ++ linkLine r') := by
    simp
  have hfirst := not_linkEnding_infix_other hr hother hending
  rw [twoLinks, hsplit]
  generalize anchorOpening ++ (r.stem ++ (ending ++ (anchorClosing ++ s))) = first at hfirst ⊢
  have hplace : first ++ '\n' :: (s' ++ linkLine r') =
      (first ++ '\n' :: (s' ++ anchorOpening)) ++ (r'.link ++ anchorClosing) := by
    simp only [linkLine, List.append_assoc, List.cons_append]
  refine findRelease?_below hr'.onOneLine hplace ?_
  · intro gap r'' rest hline h
    -- no link ends on the first line, so it is one below the line feed
    have hlink : ¬ r''.link <:+: first := fun hwithin =>
      hfirst (r''.linkEnding_infix_link.trans hwithin)
    obtain ⟨m, rfl, hm⟩ := Text.exists_of_append_cons_eq r''.link_ne_nil
      (Release.not_lineFeed_mem_link hline) hlink h
    have hbelow := noLonger_of_link_behind hhost hr'.hasShortestLink hm
    simpa using hbelow.append_left (first ++ ['\n'])

theorem blended_ne {r r' : Release} {ending between : Text} (hr' : IsNumbered r') :
    blended ending between r r' ≠ r' := by
  intro heq
  -- the number of a build has no angle bracket
  have hbuild : '>' ∉ r'.buildNumber := not_mem_of_isNumeral hr'.build_numeral (by decide)
  have hclosing : '>' ∈ anchorClosing := by decide
  rw [← heq] at hbuild
  exact hbuild (by simp [blended, hclosing])

/-- **The first of two links is skipped when a line feed follows it.** Below a name, a link for
another platform and some text without a link lead to the link for Windows of their own line, and on
one line they are taken for one link. So the lookup answers with the release of the link for Windows
exactly when there is a line feed between the two. -/
theorem findRelease_twoLinks (name : Text) {r r' : Release} {ending between : Text}
    (hr : IsNumbered r) (hr' : IsNumbered r') (hother : ending ∈ otherEndings)
    (hhost : ¬ linkHost <:+: between) (hending : ¬ linkEnding <:+: between) :
    findRelease (twoLinks name ending between r r') name =
        .ok (if '\n' ∈ between then r' else blended ending between r r') ∧
      (findRelease (twoLinks name ending between r r') name = .ok r' ↔ '\n' ∈ between) := by
  by_cases hline : '\n' ∈ between
  · obtain ⟨s, s', rfl⟩ := List.append_of_mem hline
    have hhost' : ¬ linkHost <:+: s' := fun hwithin =>
      hhost (hwithin.trans ⟨s ++ ['\n'], [], by simp⟩)
    have hending' : ¬ linkEnding <:+: s := fun hwithin =>
      hending (hwithin.trans ⟨[], '\n' :: s', by simp⟩)
    have hfound := findRelease?_twoLinks_otherLine name hr hr' hother hhost' hending'
    rw [if_pos hline, findRelease, hfound]
    exact ⟨rfl, fun _ => hline, fun _ => rfl⟩
  · have hfound := findRelease?_twoLinks_sameLine name hr hr' hother hending hline
    rw [if_neg hline, findRelease, hfound]
    refine ⟨rfl, fun h => absurd (Except.ok.inj h) (blended_ne hr'), fun h => absurd h hline⟩

/-- A release with links for two platforms. -/
def thirdBeta : Release := ⟨"3.4.0.13".toList, "183".toList, "5289776".toList⟩

def thirdBetaName : Text := "Android Studio 3.4 Beta 3".toList

/-- Its links for Linux and for Windows, with a text between the two anchors. -/
def thirdBetaLinks (between : Text) : Text :=
  twoLinks thirdBetaName "-linux.tar.gz".toList between thirdBeta thirdBeta

theorem isNumbered_thirdBeta : IsNumbered thirdBeta := by
  have hversion : thirdBeta.version.all (fun c => c.isDigit || c == '.') = true := by decide
  refine ⟨by decide, fun c hc => ?_, by decide, by decide⟩
  simpa using List.all_eq_true.mp hversion c hc

theorem findRelease_twoLinks_thirdBeta :
    findRelease (thirdBetaLinks "Linux</a>\n".toList) thirdBetaName = .ok thirdBeta :=
  (findRelease_twoLinks thirdBetaName isNumbered_thirdBeta isNumbered_thirdBeta (by decide)
    (by decide) (by decide)).2.mpr (by decide)

/-- With both links on one line, the lookup answers with what is no release. -/
theorem findRelease_links_on_one_line :
    IsNumbered thirdBeta ∧ "-linux.tar.gz".toList ∈ otherEndings ∧
      ¬ linkHost <:+: " ".toList ∧ ¬ linkEnding <:+: " ".toList ∧
      findRelease (thirdBetaLinks " ".toList) thirdBetaName =
        .ok (blended "-linux.tar.gz".toList " ".toList thirdBeta thirdBeta) ∧
      findRelease (thirdBetaLinks " ".toList) thirdBetaName ≠ .ok thirdBeta := by
  have hother : "-linux.tar.gz".toList ∈ otherEndings := by decide
  have hending : ¬ linkEnding <:+: " ".toList := by decide
  have hfound : findRelease (thirdBetaLinks " ".toList) thirdBetaName =
      .ok (blended "-linux.tar.gz".toList " ".toList thirdBeta thirdBeta) := by
    rw [findRelease, thirdBetaLinks, findRelease?_twoLinks_sameLine thirdBetaName
      isNumbered_thirdBeta isNumbered_thirdBeta hother hending (by decide)]
  refine ⟨isNumbered_thirdBeta, hother, by decide, hending, hfound, ?_⟩
  rw [hfound]
  exact fun h => blended_ne isNumbered_thirdBeta (Except.ok.inj h)

end Archive

end StudioLookup
