import StudioLookup.Proofs.Archive.CleanLinks

set_option autoImplicit false

/-! # Text above and below

A list of releases grows at its top: newer releases come to stand above those that were there
before. `findRelease_surroundings` says that this never changes the answer for an older release.
Whole lines above a page do not matter as long as the name does not stand alone in them, and once a
release has been found, no text below the page matters.

The scan of `Scan.lean` makes this plain. No place above is one where the name stands alone
(`standsAloneAt_above`), and those of the page are moved, but not changed (`standsAloneAt_moved`).
Text below may add places and links, but only behind those that were found.
-/

namespace StudioLookup.Archive

variable {page name above : Text} {k : Nat} {r : Release}

/-- The name stands alone in a text: it is at the start or behind a character other than a digit or
a dot, and a character other than a digit is behind it. -/
def StandsAlone (t name : Text) : Prop :=
  ∃ u c v, t = u ++ (name ++ c :: v) ∧ endsInNumber u = false ∧ c.isDigit = false

/-- A text of whole lines. -/
def IsLines (t : Text) : Prop := t = [] ∨ ∃ u, t = u ++ ['\n']

/-- The places where a name stands alone, by what is before and behind them. -/
theorem standsAloneAt_iff_append :
    standsAloneAt page name k = true ↔ ∃ u c v, page = u ++ (name ++ c :: v) ∧ u.length = k ∧
      endsInNumber u = false ∧ c.isDigit = false := by
  constructor
  · intro h
    have hlt : k < page.length := lt_length_of_standsAloneAt h
    obtain ⟨hnumber, c, hdrop, hc⟩ := standsAloneAt_iff.mp h
    refine ⟨page.take k, c, page.drop (k + name.length + 1), ?_, ?_, hnumber, hc⟩
    · rw [← hdrop, List.take_append_drop]
    · rw [List.length_take]
      omega
  · rintro ⟨u, c, v, rfl, rfl, hnumber, hc⟩
    rw [standsAloneAt_iff]
    have hbehind : (u ++ (name ++ c :: v)).drop (u.length + name.length + 1) = v := by
      rw [← List.drop_drop, ← List.drop_drop, List.drop_left, List.drop_left]
      rfl
    rw [List.take_left, List.drop_left, hbehind]
    exact ⟨hnumber, c, rfl, hc⟩

theorem standsAlone_iff : StandsAlone page name ↔ ∃ k, standsAloneAt page name k = true := by
  constructor
  · rintro ⟨u, c, v, hpage, hnumber, hc⟩
    exact ⟨u.length, standsAloneAt_iff_append.mpr ⟨u, c, v, hpage, rfl, hnumber, hc⟩⟩
  · rintro ⟨k, h⟩
    obtain ⟨u, c, v, hpage, -, hnumber, hc⟩ := standsAloneAt_iff_append.mp h
    exact ⟨u, c, v, hpage, hnumber, hc⟩

instance (t name : Text) : Decidable (StandsAlone t name) :=
  decidable_of_iff (∃ k ∈ List.range t.length, standsAloneAt t name k = true) <| by
    rw [standsAlone_iff]
    constructor
    · rintro ⟨k, -, h⟩
      exact ⟨k, h⟩
    · rintro ⟨k, h⟩
      exact ⟨k, List.mem_range.mpr (lt_length_of_standsAloneAt h), h⟩

/-! ## Text above -/

theorem IsLines.endsInNumber_eq_false (h : IsLines above) : endsInNumber above = false := by
  rcases h with rfl | ⟨u, rfl⟩
  · rfl
  · simp [endsInNumber]

/-- Behind a text that does not end within a number, a text ends within one only by itself. -/
theorem endsInNumber_append {u v : Text} (hu : endsInNumber u = false) :
    endsInNumber (u ++ v) = endsInNumber v := by
  cases v using List.reverseRecOn with
  | nil => rw [List.append_nil, hu]; rfl
  | append_singleton v c => simp [endsInNumber, ← List.append_assoc]

/-- The places of the page are moved by the length of what is above. -/
theorem standsAloneAt_moved (h : IsLines above) (k : Nat) :
    standsAloneAt (above ++ page) name (above.length + k) = standsAloneAt page name k := by
  unfold standsAloneAt
  have htake : (above ++ page).take (above.length + k) = above ++ page.take k := by
    rw [List.take_append, List.take_of_length_le (by omega), Nat.add_sub_cancel_left]
  have hdrop : ∀ j, (above ++ page).drop (above.length + j) = page.drop j := by
    intro j
    rw [← List.drop_drop, List.drop_left]
  rw [htake, endsInNumber_append h.endsInNumber_eq_false, Nat.add_assoc, hdrop, hdrop]

/-- No place above is one where the name stands alone, not even one that ends in the page. -/
theorem standsAloneAt_above (h : IsLines above) (hname : '\n' ∉ name)
    (habove : ¬ StandsAlone above name) (hk : k < above.length) :
    standsAloneAt (above ++ page) name k = false := by
  rw [Bool.eq_false_iff]
  intro hstands
  obtain ⟨u, c, v, heq, hu, hnumber, hc⟩ := standsAloneAt_iff_append.mp hstands
  rcases h with rfl | ⟨t, rfl⟩
  · exact absurd hk (Nat.not_lt_zero k)
  · rw [List.append_assoc, List.singleton_append, ← List.append_assoc] at heq
    rw [List.length_append, List.length_singleton] at hk
    rcases Text.append_cons_cases heq with ⟨ht, rfl, -⟩ | ⟨m, hm⟩ | ⟨m, ht⟩
    · -- the last line feed above is behind the name
      exact habove ⟨u, '\n', [], by rw [ht]; simp, hnumber, hc⟩
    · -- the last line feed above would stand in the name
      rcases List.append_eq_append_iff.mp hm with ⟨w, -, hw⟩ | ⟨w, hu', hw⟩
      · exact hname (by rw [hw]; simp)
      · cases w with
        | nil => exact hname (by rw [← hw.trans (List.nil_append name)]; simp)
        | cons d w =>
            have hlength := congrArg List.length hu'
            rw [List.length_append, List.length_cons] at hlength
            omega
    · -- what is behind the name stands above as well
      exact habove ⟨u, c, m ++ ['\n'], by rw [ht]; simp, hnumber, hc⟩

theorem scan?_above (h : IsLines above) (hname : '\n' ∉ name)
    (habove : ¬ StandsAlone above name) : scan? (above ++ page) name = scan? page name := by
  have hnone : (List.range above.length).find? (standsAloneAt (above ++ page) name) = none := by
    refine List.find?_eq_none.mpr fun k hk => ?_
    rw [standsAloneAt_above h hname habove (List.mem_range.mp hk)]
    exact Bool.false_ne_true
  have hmoved : standsAloneAt (above ++ page) name ∘ (above.length + ·) =
      standsAloneAt page name := funext (standsAloneAt_moved h)
  -- the first place of the whole is not above, so it is that of the page
  have hplace :
      (List.range ((above ++ page).length + 1)).find? (standsAloneAt (above ++ page) name) =
        ((List.range (page.length + 1)).find? (standsAloneAt page name)).map
          (above.length + ·) := by
    rw [List.length_append, Nat.add_assoc, List.range_add, List.find?_append, hnone,
      Option.none_or, List.find?_map, hmoved]
  have hdrop : ∀ k, (above ++ page).drop (above.length + k + name.length + 1) =
      page.drop (k + name.length + 1) := by
    intro k
    rw [Nat.add_assoc, Nat.add_assoc, ← List.drop_drop, List.drop_left, Nat.add_assoc]
  unfold scan?
  rw [hplace, Option.bind_map]
  refine Option.bind_congr fun k _ => ?_
  rw [Function.comp_apply, hdrop]

/-! ## Text below -/

/-- Text below does not change whether the name stands alone at a place in the page. -/
theorem standsAloneAt_below (hk : k + name.length < page.length) (below : Text) :
    standsAloneAt (page ++ below) name k = standsAloneAt page name k := by
  rw [Bool.eq_iff_iff, standsAloneAt_iff_append, standsAloneAt_iff_append]
  constructor
  · rintro ⟨u, c, v, heq, hu, hnumber, hc⟩
    have hprefix : u ++ (name ++ [c]) <+: page ++ below := ⟨v, by rw [heq]; simp⟩
    have hlength : (u ++ (name ++ [c])).length ≤ page.length := by
      rw [List.length_append, List.length_append, List.length_singleton]
      omega
    obtain ⟨w, hw⟩ :=
      List.prefix_of_prefix_length_le hprefix (List.prefix_append page below) hlength
    exact ⟨u, c, w, by rw [← hw]; simp, hu, hnumber, hc⟩
  · rintro ⟨u, c, v, rfl, hu, hnumber, hc⟩
    exact ⟨u, c, v ++ below, by simp, hu, hnumber, hc⟩

theorem scan?_below (h : scan? page name = some r) (below : Text) :
    scan? (page ++ below) name = some r := by
  obtain ⟨k, hplace, hlines⟩ := Option.bind_eq_some_iff.mp h
  obtain ⟨hstands, -, hfirst⟩ := List.find?_range_eq_some.mp hplace
  have hk : k + name.length < page.length := by
    obtain ⟨u, c, v, rfl, rfl, -⟩ := standsAloneAt_iff_append.mp hstands
    simp
  -- the place that was found is in the page, and so are all before it
  have hplace' : (List.range ((page ++ below).length + 1)).find?
      (standsAloneAt (page ++ below) name) = some k := by
    refine List.find?_range_eq_some.mpr ⟨?_, ?_, fun j hj => ?_⟩
    · rw [standsAloneAt_below hk, hstands]
    · rw [List.mem_range, List.length_append]
      omega
    · rw [standsAloneAt_below (by omega), hfirst j hj]
  rw [scan?, hplace', Option.bind_some, List.drop_append_of_le_length hk]
  exact scanLines?_append hlines below

/-! ## The lookup -/

/-- **The surroundings of a page do not matter.** Whole lines above a page in which the name does
not stand alone change nothing, whether the lookup finds a release or fails. Text below a page in
which a release was found changes nothing either. -/
theorem findRelease_surroundings (page name : Text) :
    (∀ above, IsLines above → '\n' ∉ name → ¬ StandsAlone above name →
        findRelease (above ++ page) name = findRelease page name) ∧
      ∀ r, findRelease page name = .ok r →
        ∀ below, findRelease (page ++ below) name = .ok r := by
  constructor
  · intro above h hname habove
    simp only [findRelease, findRelease?_eq_scan?, scan?_above h hname habove]
  · intro r h below
    rw [findRelease_eq_ok_iff, findRelease?_eq_scan?] at h ⊢
    exact scan?_below h below

/-- The release behind the name `Canary 1`. -/
def listedCanary : Release := ⟨"3.5.0.0".toList, "182".toList, "5112304".toList⟩

/-- A page with `Canary 1` on its first line and the link of its release on the next. -/
def listedCanaryPage : Text := "Canary 1".toList ++ '\n' :: (listedCanary.link ++ ['\n'])

theorem findRelease_surroundings_listedCanary :
    ¬ StandsAlone "Canary 10\n".toList "Canary 1".toList ∧
      findRelease ("Canary 10\n".toList ++ listedCanaryPage) "Canary 1".toList =
        .ok listedCanary ∧
      findRelease (listedCanaryPage ++ "Canary 1\n".toList) "Canary 1".toList =
        .ok listedCanary := by
  have hclean : listedCanary.IsClean :=
    ⟨⟨by decide, by decide, by decide⟩, by decide, by decide, by decide⟩
  have hfound : findRelease listedCanaryPage "Canary 1".toList = .ok listedCanary :=
    findRelease_name_line_link hclean "Canary 1".toList ['\n']
  have halone : ¬ StandsAlone "Canary 10\n".toList "Canary 1".toList := by decide
  have hlines : IsLines "Canary 10\n".toList := Or.inr ⟨"Canary 10".toList, by decide⟩
  have habove := (findRelease_surroundings listedCanaryPage "Canary 1".toList).1
    "Canary 10\n".toList hlines (by decide) halone
  have hbelow := (findRelease_surroundings listedCanaryPage "Canary 1".toList).2
    listedCanary hfound "Canary 1\n".toList
  exact ⟨halone, habove.trans hfound, hbelow⟩

end StudioLookup.Archive
