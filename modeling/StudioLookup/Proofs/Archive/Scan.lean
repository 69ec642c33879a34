import StudioLookup.Proofs.Archive.Link
import StudioLookup.Proofs.Text.MarkedLines

set_option autoImplicit false

/-! # The lookup in one pass

The lookup of a release can be done without ever going back (`scan?`): take the first place where
the name stands alone, behind it the first line that has the four fixed texts of a link in their
order, and in this line each of the texts at its first place. `findRelease_eq_scan` says that this
is the lookup.

Nothing is lost by going on from the first of each, since what stands behind a later one stands
behind the first one too: the links behind a later place of the name are behind the first place
(`exists_link_of_lists`), and the texts of a link that stand behind each other in a line do so when
each is taken at its first place (`Text.between?_eq_none_iff`). And what is found comes first among
all that could be found, at each of the three steps (`noLonger_of_length_lt`,
`Text.isShortest_of_first_line`, `Text.isShortest_of_between?`).
-/

namespace StudioLookup.Archive

open Text (HoldsInOrder Marked MarkedOnLine between? pieces unlines)

/-! ## The scan -/

/-- The fixed texts of a link for Windows, in their order. -/
def linkMarkers : List Text := [linkOpening, linkProduct, ['.'], linkEnding]

/-- Whether the name stands alone at an offset of the page: neither a digit nor a dot is before it,
and a character that is no digit is behind it. -/
def standsAloneAt (page name : Text) (k : Nat) : Bool :=
  !endsInNumber (page.take k) && name.isPrefixOf (page.drop k) &&
    (page.drop (k + name.length)).head?.any fun c => !c.isDigit

/-- The release of the link in a line, each fixed text of it taken at its first place. -/
def linkIn? (line : Text) : Option Release :=
  match between? linkMarkers line with
  | some [_, version, idea, build] => some ⟨version, idea, build⟩
  | _ => none

/-- The release of the link in the first line that has the fixed texts of one. -/
def scanLines? (t : Text) : Option Release :=
  ((pieces '\n' t).find? (HoldsInOrder linkMarkers ·)).bind linkIn?

/-- The release of the first link behind the first place where the name stands alone and the
character that follows it there. -/
def scan? (page name : Text) : Option Release :=
  ((List.range (page.length + 1)).find? (standsAloneAt page name)).bind fun k =>
    scanLines? (page.drop (k + name.length + 1))

/-! ## Links in lines -/

variable {page name t line : Text} {gs : List Text} {r : Release}

theorem marked_linkMarkers_iff :
    Marked linkMarkers gs t ↔
      ∃ gap r rest, gs = gap :: Release.parts r ∧ t = gap ++ (r.link ++ rest) := by
  unfold linkMarkers
  simp only [Text.marked_cons_iff]
  constructor
  · rintro ⟨gap, _, _, rfl, rfl, v, _, _, rfl, rfl, i, _, _, rfl, rfl, b, _, rest, rfl, rfl, hnil⟩
    cases hnil
    exact ⟨gap, ⟨v, i, b⟩, rest, rfl, by rw [Release.link_append]; rfl⟩
  · rintro ⟨gap, r, rest, rfl, rfl⟩
    exact ⟨gap, r.parts, _, rfl, by rw [r.link_append]; rfl, _, _, _, rfl, rfl, _, _, _, rfl, rfl,
      _, _, rest, rfl, rfl, .nil rest⟩

/-- The fixed texts of a link stand on one line of a text where a link does. -/
theorem markedOnLine_linkMarkers_iff :
    MarkedOnLine linkMarkers gs t ↔
      ∃ gap r rest, gs = gap :: Release.parts r ∧ t = gap ++ (r.link ++ rest) ∧ r.OnOneLine := by
  unfold MarkedOnLine
  rw [marked_linkMarkers_iff]
  constructor
  · rintro ⟨⟨gap, r, rest, rfl, rfl⟩, hline⟩
    exact ⟨gap, r, rest, rfl, rfl, by simpa [Release.parts, Release.OnOneLine] using hline⟩
  · rintro ⟨gap, r, rest, rfl, rfl, hr⟩
    exact ⟨⟨gap, r, rest, rfl, rfl⟩, by simpa [Release.parts, Release.OnOneLine] using hr⟩

theorem areOfLines_linkMarkers : Text.AreOfLines linkMarkers :=
  ⟨by decide, by decide, by decide⟩

theorem linkIn?_eq_some_iff :
    linkIn? line = some r ↔ ∃ gap, between? linkMarkers line = some (gap :: r.parts) := by
  unfold linkIn?
  constructor
  · intro h
    split at h
    · rename_i gap v i b hbetween
      obtain rfl := Option.some.inj h
      exact ⟨gap, hbetween⟩
    · cases h
  · rintro ⟨gap, hbetween⟩
    rw [hbetween]
    rfl

theorem holdsInOrder_of_linkIn? (h : linkIn? line = some r) : HoldsInOrder linkMarkers line := by
  obtain ⟨gap, hbetween⟩ := linkIn?_eq_some_iff.mp h
  exact ⟨_, (Text.isShortest_of_between? hbetween).1⟩

theorem scanLines?_eq_some_iff :
    scanLines? t = some r ↔ ∃ above line below, pieces '\n' t = above ++ line :: below ∧
      (∀ l ∈ above, ¬ HoldsInOrder linkMarkers l) ∧ linkIn? line = some r := by
  rw [scanLines?, Option.bind_eq_some_iff]
  constructor
  · rintro ⟨line, hfind, hlink⟩
    obtain ⟨-, above, below, hpieces, habove⟩ := List.find?_eq_some_iff_append.mp hfind
    exact ⟨above, line, below, hpieces, by simpa using habove, hlink⟩
  · rintro ⟨above, line, below, hpieces, habove, hlink⟩
    have hholds : HoldsInOrder linkMarkers line := holdsInOrder_of_linkIn? hlink
    exact ⟨line, List.find?_eq_some_iff_append.mpr
      ⟨decide_eq_true hholds, above, below, hpieces, by simpa using habove⟩, hlink⟩

/-- The lines of a text have no link, or the one that comes first is found. -/
theorem scanLines?_spec (t : Text) :
    (scanLines? t = none ∧ ∀ gap r rest, Release.OnOneLine r → t ≠ gap ++ (r.link ++ rest)) ∨
      ∃ gap r rest, scanLines? t = some r ∧ t = gap ++ (r.link ++ rest) ∧ r.OnOneLine ∧
        ∀ gap' r' rest', t = gap' ++ (Release.link r' ++ rest') → r'.OnOneLine →
          NoLonger (gap :: r.parts) (gap' :: r'.parts) := by
  rcases Text.firstLine_cases areOfLines_linkMarkers t with
    ⟨hlines, hnone⟩ | ⟨above, line, below, g, inner, hpieces, habove, hline, hfirst, hshortest⟩
  · have hfind : (pieces '\n' t).find? (HoldsInOrder linkMarkers ·) = none :=
      List.find?_eq_none.mpr (by simpa using hlines)
    refine Or.inl ⟨by rw [scanLines?, hfind]; rfl, fun gap r rest hr ht => ?_⟩
    exact hnone _ (markedOnLine_linkMarkers_iff.mpr ⟨gap, r, rest, rfl, ht, hr⟩)
  · obtain ⟨gap, r, rest, hgs, ht, hr⟩ := markedOnLine_linkMarkers_iff.mp hfirst
    obtain ⟨rfl, rfl⟩ := List.cons.inj hgs
    have hlink : linkIn? line = some r := linkIn?_eq_some_iff.mpr ⟨g, hline⟩
    have hscan : scanLines? t = some r :=
      scanLines?_eq_some_iff.mpr ⟨above, line, below, hpieces, habove, hlink⟩
    refine Or.inr ⟨_, r, rest, hscan, ht, hr, ?_⟩
    intro gap' r' rest' ht' hr'
    exact hshortest _ (markedOnLine_linkMarkers_iff.mpr ⟨gap', r', rest', rfl, ht', hr'⟩)

/-- What is added behind a text does not change which link is found in it, even if it makes the last
line longer. -/
theorem scanLines?_append (h : scanLines? t = some r) (u : Text) :
    scanLines? (t ++ u) = some r := by
  obtain ⟨above, line, below, hlines, habove, hlink⟩ := scanLines?_eq_some_iff.mp h
  obtain ⟨ts, l, x, us, ht, -, htu⟩ := Text.pieces_append '\n' t u
  refine scanLines?_eq_some_iff.mpr ?_
  rcases Text.append_cons_cases (ht.symm.trans hlines) with
    ⟨rfl, rfl, -⟩ | ⟨m, rfl⟩ | ⟨m, rfl⟩
  · -- the link is in the last line, which becomes longer
    obtain ⟨gap, hbetween⟩ := linkIn?_eq_some_iff.mp hlink
    have hlink' : linkIn? (l ++ x) = some r :=
      linkIn?_eq_some_iff.mpr ⟨gap, Text.between?_append hbetween x⟩
    exact ⟨ts, l ++ x, us, htu, habove, hlink'⟩
  · have hlength := congrArg List.length (ht.symm.trans hlines)
    simp at hlength
  · exact ⟨above, line, m ++ (l ++ x) :: us, by rw [htu, List.append_assoc]; rfl, habove, hlink⟩

/-! ## Places of the name -/

theorem standsAloneAt_iff {k : Nat} :
    standsAloneAt page name k = true ↔ endsInNumber (page.take k) = false ∧
      ∃ c, page.drop k = name ++ c :: page.drop (k + name.length + 1) ∧ c.isDigit = false := by
  rw [standsAloneAt, Bool.and_eq_true, Bool.and_eq_true, Bool.not_eq_true',
    List.isPrefixOf_iff_prefix, and_assoc]
  refine and_congr_right fun _ => ?_
  constructor
  · rintro ⟨⟨v, hv⟩, hhead⟩
    have hbehind : page.drop (k + name.length) = v := by
      rw [← List.drop_drop, ← hv, List.drop_left]
    rw [hbehind] at hhead
    cases v with
    | nil => cases hhead
    | cons c v =>
        refine ⟨c, ?_, by simpa using hhead⟩
        rw [← List.drop_drop, hbehind, ← hv]
        rfl
  · rintro ⟨c, hdrop, hc⟩
    have hbehind : page.drop (k + name.length) = c :: page.drop (k + name.length + 1) := by
      rw [← List.drop_drop, hdrop, List.drop_left]
    refine ⟨⟨_, hdrop.symm⟩, ?_⟩
    rw [hbehind]
    simpa using hc

theorem lt_length_of_standsAloneAt {k : Nat} (h : standsAloneAt page name k = true) :
    k < page.length := by
  obtain ⟨-, c, hdrop, -⟩ := standsAloneAt_iff.mp h
  have hlength := congrArg List.length hdrop
  rw [List.length_drop, List.length_append, List.length_cons] at hlength
  omega

/-- Where a page lists a release under a name, the name stands alone. -/
theorem standsAloneAt_of_lists {before lead gap : Text} (h : Lists page name before lead gap r) :
    page.take (before ++ lead).length = before ++ lead ∧
      standsAloneAt page name (before ++ lead).length = true ∧
      ∃ rest, page.drop ((before ++ lead).length + name.length + 1) = gap ++ (r.link ++ rest) := by
  obtain ⟨c, rest, hpage, hlead, hc, -⟩ := h
  rw [← List.append_assoc] at hpage
  have hdrop : page.drop (before ++ lead).length = name ++ c :: (gap ++ (r.link ++ rest)) := by
    rw [hpage, List.drop_left]
  have hbehind : page.drop ((before ++ lead).length + name.length + 1) =
      gap ++ (r.link ++ rest) := by
    rw [← List.drop_drop, ← List.drop_drop, hdrop, List.drop_left]
    rfl
  have htake : page.take (before ++ lead).length = before ++ lead := by
    rw [hpage, List.take_left]
  refine ⟨htake, standsAloneAt_iff.mpr ⟨?_, c, by rw [hbehind, hdrop], hc⟩, rest, hbehind⟩
  rw [htake]
  exact exists_leads_iff.mp ⟨before, lead, rfl, hlead⟩

/-- Where a name stands alone and a link is behind it, the page lists the release. -/
theorem exists_lists_of_standsAloneAt {k : Nat} {gap rest : Text}
    (h : standsAloneAt page name k = true) (hr : r.OnOneLine)
    (hlink : page.drop (k + name.length + 1) = gap ++ (r.link ++ rest)) :
    ∃ before lead, page.take k = before ++ lead ∧ Lists page name before lead gap r := by
  obtain ⟨hnumber, c, hdrop, hc⟩ := standsAloneAt_iff.mp h
  obtain ⟨before, lead, htake, hlead⟩ := exists_leads_iff.mpr hnumber
  refine ⟨before, lead, htake, c, rest, ?_, hlead, hc, hr⟩
  rw [← hlink, ← hdrop, ← List.append_assoc, ← htake, List.take_append_drop]

/-- A boundary is one character, or nothing at the start of the page. -/
theorem length_of_leads {before lead : Text} (h : Leads (some nameLeading) before.isEmpty lead) :
    (before.length = 0 ∧ lead.length = 0) ∨ lead.length = 1 := by
  rcases h with ⟨hempty, rfl⟩ | ⟨c, -, rfl⟩
  · exact Or.inl ⟨by rw [List.isEmpty_iff.mp hempty]; rfl, rfl⟩
  · exact Or.inr rfl

section

variable {before lead before' lead' : Text} (h : Leads (some nameLeading) before.isEmpty lead)
  (h' : Leads (some nameLeading) before'.isEmpty lead')

include h h'

/-- An earlier place of the name comes before a later one, with or without a boundary. -/
theorem noLonger_of_length_lt {gs gs' : List Text}
    (hlt : (before ++ lead).length < (before' ++ lead').length) :
    NoLonger (before :: lead :: gs) (before' :: lead' :: gs') := by
  rw [List.length_append, List.length_append] at hlt
  have hlead := length_of_leads h
  have hlead' := length_of_leads h'
  have hlengths : before.length < before'.length ∨
      (before.length = before'.length ∧ lead.length < lead'.length) := by omega
  exact hlengths.imp_right fun ⟨hbefore, hlead⟩ => ⟨hbefore, Or.inl hlead⟩

/-- A place of the name determines its boundary. -/
theorem eq_of_leads (heq : before ++ lead = before' ++ lead') :
    before = before' ∧ lead = lead' := by
  have hlead := length_of_leads h
  have hlead' := length_of_leads h'
  have hlength := congrArg List.length heq
  rw [List.length_append, List.length_append] at hlength
  exact List.append_inj heq (by omega)

end

/-! ## The lookup -/

/-- What is behind a later place of the name is behind an earlier one, with more before it. -/
theorem exists_link_of_lists {k : Nat} {before lead gap : Text}
    (h : Lists page name before lead gap r) (hk : k ≤ (before ++ lead).length) :
    ∃ u rest, page.drop (k + name.length + 1) = u ++ gap ++ (r.link ++ rest) := by
  obtain ⟨-, -, rest, hdrop⟩ := standsAloneAt_of_lists h
  obtain ⟨u, hu⟩ : page.drop ((before ++ lead).length + name.length + 1) <:+
      page.drop (k + name.length + 1) := List.drop_suffix_drop_left page (by omega)
  exact ⟨u, rest, by rw [← hu, hdrop, List.append_assoc]⟩

/-- The name stands alone nowhere, and nothing is listed, or its first place is not behind that of
any release that is listed. -/
theorem findPlace_spec (page name : Text) :
    ((List.range (page.length + 1)).find? (standsAloneAt page name) = none ∧
        ∀ before lead gap r, ¬ Lists page name before lead gap r) ∨
      ∃ k, (List.range (page.length + 1)).find? (standsAloneAt page name) = some k ∧
        standsAloneAt page name k = true ∧
        ∀ before lead gap r, Lists page name before lead gap r → k ≤ (before ++ lead).length := by
  cases hplace : (List.range (page.length + 1)).find? (standsAloneAt page name) with
  | none =>
      refine Or.inl ⟨rfl, fun before lead gap r hlists => ?_⟩
      have hstands := (standsAloneAt_of_lists hlists).2.1
      refine List.find?_eq_none.mp hplace _ (List.mem_range.mpr ?_) hstands
      exact Nat.lt_succ_of_lt (lt_length_of_standsAloneAt hstands)
  | some k =>
      obtain ⟨hstands, -, hbefore⟩ := List.find?_range_eq_some.mp hplace
      refine Or.inr ⟨k, rfl, hstands, fun before lead gap r hlists => ?_⟩
      refine Nat.le_of_not_lt fun hlt => ?_
      have hnot := hbefore _ hlt
      rw [(standsAloneAt_of_lists hlists).2.1] at hnot
      cases hnot

/-- A release that is listed at the first place of the name comes before one that is listed at
another place, and before one at the same place if its link comes first there. -/
theorem noLonger_of_first_place {k : Nat} {before lead gap before' lead' gap' : Text}
    {r' : Release} (h : Lists page name before lead gap r)
    (h' : Lists page name before' lead' gap' r') (hk : (before ++ lead).length = k)
    (hle : k ≤ (before' ++ lead').length)
    (hlink : ∀ rest', page.drop (k + name.length + 1) = gap' ++ (r'.link ++ rest') →
      NoLonger (gap :: r.parts) (gap' :: r'.parts)) :
    NoLonger (before :: lead :: gap :: r.parts) (before' :: lead' :: gap' :: r'.parts) := by
  obtain ⟨htake, -, -⟩ := standsAloneAt_of_lists h
  obtain ⟨htake', -, rest', hdrop'⟩ := standsAloneAt_of_lists h'
  obtain ⟨-, -, -, hlead, -, -⟩ := h
  obtain ⟨-, -, -, hlead', -, -⟩ := h'
  subst hk
  rcases Nat.lt_or_eq_of_le hle with hlt | heq
  · exact noLonger_of_length_lt hlead hlead' hlt
  · -- at the same place the boundary is the same, and the link decides
    rw [← heq] at htake' hdrop'
    obtain ⟨rfl, rfl⟩ := eq_of_leads hlead hlead' (htake.symm.trans htake')
    exact Or.inr ⟨rfl, Or.inr ⟨rfl, hlink rest' hdrop'⟩⟩

theorem findRelease?_eq_scan? (page name : Text) : findRelease? page name = scan? page name := by
  unfold scan?
  rcases findPlace_spec page name with ⟨hplace, hnone⟩ | ⟨k, hplace, hstands, hk⟩
  · rw [hplace]
    exact findRelease?_eq_none_iff.mpr hnone
  · rw [hplace, Option.bind_some]
    rcases scanLines?_spec (page.drop (k + name.length + 1)) with
      ⟨hscan, hnone⟩ | ⟨gap, r, rest, hscan, hdrop, hr, hshortest⟩
    · -- the link of any release that is listed stands in the text that was scanned
      rw [hscan]
      refine findRelease?_eq_none_iff.mpr fun before lead gap r hlists => ?_
      obtain ⟨u, rest, hlink⟩ := exists_link_of_lists hlists (hk _ _ _ _ hlists)
      obtain ⟨-, -, -, -, -, hr⟩ := hlists
      exact hnone _ _ _ hr hlink
    · rw [hscan]
      obtain ⟨before, lead, htake, hlists⟩ := exists_lists_of_standsAloneAt hstands hr hdrop
      have hlength : (before ++ lead).length = k := by
        rw [← htake, List.length_take]
        exact Nat.min_eq_left (Nat.le_of_lt (lt_length_of_standsAloneAt hstands))
      refine findRelease?_eq_some_iff.mpr ⟨before, lead, gap, hlists, ?_⟩
      intro before' lead' gap' r' hlists'
      refine noLonger_of_first_place hlists hlists' hlength (hk _ _ _ _ hlists') ?_
      intro rest' hdrop'
      obtain ⟨-, -, -, -, -, hr'⟩ := hlists'
      exact hshortest gap' r' rest' hdrop' hr'

/-- **The lookup needs no second look.** On every page and for every name, the lookup answers what
the scan answers in one pass, and reports the release as missing when the scan finds none. -/
theorem findRelease_eq_scan (page name : Text) :
    findRelease page name =
      match scan? page name with
      | some r => .ok r
      | none =>
          .error (.ofKind .notFound
            ("no download link for '".toList ++ name ++ "' in release list".toList)) := by
  rw [findRelease, findRelease?_eq_scan?]
  cases scan? page name with
  | none => rfl
  | some r => rfl

end StudioLookup.Archive
