import StudioLookup.Proofs.Archive.Blocks

set_option autoImplicit false

/-! # Stable versions in longer numbers

The name of a stable release is its version, such as `3.3.1`, and a page is full of longer numbers
in which the same digits stand: `13.3.1`, `3.3.10`, and `3.3.1.0` in the directory of a download
link. The lookup passes over an occurrence before which or behind which the number goes on with a
digit, and over one that has a dot before it. A dot behind it ends the name, whatever follows the
dot. So `findRelease_of_longer_numbers` has a condition: a version that stands on a page in longer
numbers only is reported as missing exactly when there is no link behind those that go on with a dot
and a digit. Without the condition the release of another version may be the answer
(`findRelease_in_longer_number`).
-/

namespace StudioLookup.Archive

/-! ## Occurrences in longer numbers -/

/-- Whether a text begins with a digit. -/
def beginsWithDigit (v : Text) : Bool := v.head?.any Char.isDigit

/-- Whether what stands between two texts is part of a longer number: it goes on before, or behind,
where it may go on with a digit or with a dot and a digit. -/
def inLongerNumber (u v : Text) : Bool :=
  endsInNumber u || beginsWithDigit v || (v.head? == some '.' && beginsWithDigit v.tail)

/-- What holds of all occurrences of a name holds at every place at which the name stands. -/
theorem forall_occurrences_iff {page name : Text} {p : Text → Text → Prop} :
    (∀ u v, page = u ++ (name ++ v) → p u v) ↔
      ∀ i ≤ page.length, name <+: page.drop i →
        p (page.take i) (page.drop (i + name.length)) := by
  constructor
  · rintro h i - ⟨v, hv⟩
    have hafter : page.drop (i + name.length) = v := by
      rw [← List.drop_drop, ← hv, List.drop_left]
    rw [hafter]
    exact h _ _ (by rw [hv, List.take_append_drop])
  · rintro h u v rfl
    have hplace := h u.length (by simp) (by simp)
    rwa [← List.drop_drop, List.drop_left, List.drop_left, List.take_left] at hplace

instance decidableForallOccurrences (page name : Text) (p : Text → Text → Prop)
    [∀ u v, Decidable (p u v)] : Decidable (∀ u v, page = u ++ (name ++ v) → p u v) :=
  decidable_of_iff _ forall_occurrences_iff.symm

/-- **When a name is reported as missing**: when no link stands behind any occurrence that the
number around it does not take in. The character behind the name belongs to no link. -/
theorem findRelease_eq_missing_iff {page name : Text} :
    findRelease page name = .error (missingRelease name) ↔
      ∀ u v, page = u ++ (name ++ v) → endsInNumber u = false → beginsWithDigit v = false →
        ∀ r : Release, r.OnOneLine → ¬ r.link <:+: v.tail := by
  rw [findRelease_eq_error_iff]
  constructor
  · rintro ⟨hnone, -⟩ u v hpage hu hv r hr ⟨gap, rest, hlink⟩
    obtain ⟨before, lead, rfl, hlead⟩ := exists_leads_iff.mpr hu
    cases v with
    | nil =>
        obtain ⟨-, hnil, -⟩ : gap = [] ∧ r.link = [] ∧ rest = [] := by simpa using hlink
        exact r.link_ne_nil hnil
    | cons c v =>
        refine hnone before lead gap r ⟨c, rest, ?_, hlead, hv, hr⟩
        rw [hpage, ← List.append_assoc gap, hlink, List.append_assoc]
        rfl
  · refine fun h => ⟨?_, rfl⟩
    rintro before lead gap r ⟨c, rest, hpage, hlead, hc, hr⟩
    have hu : endsInNumber (before ++ lead) = false := exists_leads_iff.mp ⟨before, lead, rfl, hlead⟩
    rw [← List.append_assoc] at hpage
    exact h _ _ hpage hu hc r hr ⟨gap, rest, by simp⟩

/-- An occurrence that is part of a longer number and that the lookup does not pass over goes on
with a dot and a digit. -/
theorem exists_dot_of_inLongerNumber {u v : Text} (h : inLongerNumber u v = true)
    (hu : endsInNumber u = false) (hv : beginsWithDigit v = false) :
    ∃ w, v = '.' :: w ∧ beginsWithDigit w = true := by
  unfold inLongerNumber at h
  rw [hu, hv] at h
  cases v with
  | nil => simp at h
  | cons c w =>
      obtain ⟨hdot, hw⟩ : c = '.' ∧ beginsWithDigit w = true := by simpa using h
      exact ⟨w, by rw [hdot], hw⟩

/-- **A stable version in longer numbers.** On a page on which a stable version stands only in
longer numbers, it is reported as missing exactly when no link stands behind those of them that
begin with the version and go on with a dot and a digit. -/
theorem findRelease_of_longer_numbers {version : Text}
    (hstable : Version.isNumbered version = true) :
    releaseName version = .ok version ∧
      (missingRelease version).kind? = some .notFound ∧
      ∀ page, (∀ u v, page = u ++ (version ++ v) → inLongerNumber u v = true) →
        (findRelease page version = .error (missingRelease version) ↔
          ∀ u w, page = u ++ (version ++ '.' :: w) → endsInNumber u = false →
            beginsWithDigit w = true → ∀ r : Release, r.OnOneLine → ¬ r.link <:+: w) := by
  refine ⟨releaseName_of_isNumbered hstable, rfl, fun page hpage => ?_⟩
  rw [findRelease_eq_missing_iff]
  constructor
  · intro h u w huw hu _ r hr
    exact h u ('.' :: w) huw hu rfl r hr
  · intro h u v huv hu hv r hr
    obtain ⟨w, rfl, hw⟩ := exists_dot_of_inLongerNumber (hpage u v huv) hu hv
    exact h u w huv hu hw r hr

/-- A page that names `13.3.1` and lists `3.3.10`. -/
def tenthPatch : Text :=
  Text.unlines [headingLine "13.3.1".toList, headingLine "3.3.10".toList,
    linkLine ⟨"3.3.10.0".toList, "182".toList, "2".toList⟩]

theorem findRelease_of_longer_numbers_tenthPatch :
    Version.isNumbered "3.3.1".toList = true ∧
      findRelease tenthPatch "3.3.1".toList = .error (missingRelease "3.3.1".toList) := by
  have hstable : Version.isNumbered "3.3.1".toList = true := by decide
  have hlonger : ∀ u v, tenthPatch = u ++ ("3.3.1".toList ++ v) → inLongerNumber u v = true := by
    decide +kernel
  have hdot : ∀ u v, tenthPatch = u ++ ("3.3.1".toList ++ v) →
      endsInNumber u = true ∨ v.head? ≠ some '.' := by decide +kernel
  refine ⟨hstable, ((findRelease_of_longer_numbers hstable).2.2 _ hlonger).mpr ?_⟩
  intro u w huw hu
  rcases hdot u _ huw with hnumber | hhead
  · exact absurd (hu.symm.trans hnumber) Bool.false_ne_true
  · exact absurd rfl hhead

/-- A page that lists two releases without their names. -/
def unnamed : Text :=
  Text.unlines [linkLine ⟨"3.3.1.0".toList, "182".toList, "5264788".toList⟩,
    linkLine ⟨"3.4.0.18".toList, "183".toList, "5452501".toList⟩]

/-- A version that stands only in the directory of a link gives the release of the link below. -/
theorem findRelease_in_longer_number :
    Version.isNumbered "3.3.1".toList = true ∧
      releaseName "3.3.1".toList = .ok "3.3.1".toList ∧
      (∀ u v, unnamed = u ++ ("3.3.1".toList ++ v) → inLongerNumber u v = true) ∧
      findRelease unnamed "3.3.1".toList =
        .ok ⟨"3.4.0.18".toList, "183".toList, "5452501".toList⟩ := by
  have hfound : findRelease? unnamed "3.3.1".toList =
      some ⟨"3.4.0.18".toList, "183".toList, "5452501".toList⟩ := by decide +kernel
  have hstable : Version.isNumbered "3.3.1".toList = true := by decide
  refine ⟨hstable, releaseName_of_isNumbered hstable, by decide +kernel, ?_⟩
  rw [findRelease, hfound]

end StudioLookup.Archive
