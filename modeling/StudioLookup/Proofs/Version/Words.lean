import StudioLookup.Proofs.Text.Pieces
import StudioLookup.Proofs.Text.Replacement
import StudioLookup.Version

set_option autoImplicit false

/-! # The words of a release name

The name of a prerelease is a sequence of words with one blank between each two: the two words
of the product, the series, the stage and its number. When the stage of the version is written
in letters and digits, no word holds a blank, so a name that stands in a longer text can be taken
apart again by cutting the text at its blanks (`HasWords.pieces_append`).
-/

namespace StudioLookup

/-- A version with a dash after which there are only ASCII letters and digits. -/
def HasPlainStage (version : Text) : Prop :=
  ∃ numbers stage, version = numbers ++ '-' :: stage ∧ ∀ c ∈ stage, c.isAlphanum = true

namespace Version

/-! ## What reading a prerelease has found -/

theorem splitStage_eq_ok {t word number : Text} (h : splitStage t = .ok (word, number)) :
    3 ≤ t.length ∧ word = t.take (t.length - 2) ∧ number = dropZero (t.drop (t.length - 2)) ∧
      ∀ c ∈ t.drop (t.length - 2), c.isDigit = true := by
  unfold splitStage at h
  by_cases hl : t.length < 3
  · rw [if_pos hl] at h
    cases h
  · rw [if_neg hl] at h
    by_cases hd : (t.drop (t.length - 2)).all Char.isDigit = true
    · rw [if_pos hd] at h
      cases h
      exact ⟨by omega, rfl, rfl, List.all_eq_true.mp hd⟩
    · rw [if_neg hd] at h
      cases h

theorem readPrerelease_eq_ok {numbers stage : Text} {v : Version}
    (h : readPrerelease numbers stage = .ok v) :
    ∃ word number, isNumbered numbers = true ∧ hasShortPatch numbers = true ∧
      splitStage (capitalizeStage stage) = .ok (word, number) ∧
      v = .prerelease (numbers.take (numbers.length - 2)) word number := by
  unfold readPrerelease at h
  by_cases hn : (isNumbered numbers && hasShortPatch numbers) = true
  · rw [if_pos hn] at h
    obtain ⟨hnumbered, hpatch⟩ := Bool.and_eq_true_iff.mp hn
    cases hs : splitStage (capitalizeStage stage) with
    | error e =>
        rw [hs] at h
        cases h
    | ok parts =>
        rw [hs] at h
        cases h
        exact ⟨parts.1, parts.2, hnumbered, hpatch, rfl, rfl⟩
  · rw [if_neg hn] at h
    cases h

/-- A version with a dash is read as a prerelease whose stage is all that stands after it. -/
theorem read_append_cons {numbers stage : Text} {v : Version} (hstage : '-' ∉ stage)
    (h : read (numbers ++ '-' :: stage) = .ok v) :
    '-' ∉ numbers ∧ readPrerelease numbers stage = .ok v := by
  have hpieces :
      Text.pieces '-' (numbers ++ '-' :: stage) = Text.pieces '-' numbers ++ [stage] := by
    rw [Text.pieces_append_cons, Text.pieces_of_not_mem hstage]
  unfold read at h
  rw [hpieces] at h
  cases hn : Text.pieces '-' numbers with
  | nil => exact absurd hn (Text.pieces_ne_nil '-' numbers)
  | cons p ps =>
      have hjoin : Text.join ['-'] (p :: ps) = numbers := hn ▸ Text.join_pieces '-' numbers
      rw [hn] at h
      cases ps with
      | nil =>
          -- one dash, between `p` and the stage
          obtain rfl : p = numbers := hjoin
          simp only [List.cons_append, List.nil_append] at h
          by_cases ha : (p ++ '-' :: stage).all (·.toNat < 128) = true
          · rw [if_pos ha] at h
            exact ⟨Text.not_mem_of_mem_pieces (hn ▸ List.mem_singleton_self p), h⟩
          · rw [if_neg ha] at h
            cases h
      | cons q qs =>
          -- two dashes at least
          cases qs with
          | nil => cases h
          | cons r rs => cases h

/-! ## The characters of the words -/

theorem isDigit_or_eq_dot_of_isNumbered {t : Text} (h : isNumbered t = true) {c : Char}
    (hc : c ∈ t) : c.isDigit = true ∨ c = '.' := by
  have hall : ∀ p ∈ Text.pieces '.' t, isNumeral p = true :=
    List.all_eq_true.mp (Bool.and_eq_true_iff.mp h).2
  have hplace : c = '.' ∨ ∃ p ∈ Text.pieces '.' t, c ∈ p := Text.mem_pieces_of_mem hc
  rcases hplace with hdot | ⟨p, hp, hcp⟩
  · exact Or.inr hdot
  · have hdigits : p.all Char.isDigit = true := (Bool.and_eq_true_iff.mp (hall p hp)).2
    exact Or.inl (List.all_eq_true.mp hdigits c hcp)

/-- Three numbers with dots between them are a stable version. -/
theorem read_of_isNumbered {t : Text} (h : isNumbered t = true) : read t = .ok (.stable t) := by
  have hdash : '-' ∉ t := by
    intro hmem
    rcases isDigit_or_eq_dot_of_isNumbered h hmem with hdigit | hdot
    · exact absurd hdigit (by decide)
    · exact absurd hdot (by decide)
  unfold read
  rw [Text.pieces_of_not_mem hdash]
  exact if_pos h

/-- Capitalising puts in nothing but the stage words. -/
theorem mem_capitalizeStage {t : Text} {c : Char} (h : c ∈ capitalizeStage t) :
    c ∈ t ∨ ∃ w ∈ stageWords, c ∈ w.2 := by
  unfold capitalizeStage at h
  -- the words are replaced one after the other, so the induction is on any list of them
  generalize stageWords = words at h ⊢
  induction words generalizing t with
  | nil => exact Or.inl h
  | cons w words ih =>
      rcases ih h with h | ⟨w', hw', hc⟩
      · rcases Text.mem_replaceAll h with h | h
        · exact Or.inl h
        · exact Or.inr ⟨w, by simp, h⟩
      · exact Or.inr ⟨w', List.mem_cons_of_mem _ hw', hc⟩

theorem isAlphanum_of_mem_capitalizeStage {t : Text} (ht : ∀ c ∈ t, c.isAlphanum = true) {c : Char}
    (h : c ∈ capitalizeStage t) : c.isAlphanum = true := by
  have hwords : ∀ w ∈ stageWords, w.2.all Char.isAlphanum = true := by decide
  rcases mem_capitalizeStage h with h | ⟨w, hw, hc⟩
  · exact ht c h
  · exact List.all_eq_true.mp (hwords w hw) c hc

theorem dropZero_sublist (t : Text) : List.Sublist (dropZero t) t := by
  unfold dropZero
  split
  · exact List.sublist_cons_self _ _
  · exact List.Sublist.refl t

end Version

/-! ## Versions that have a release name -/

/-- The release of a stable version has the text of the version as its name. -/
theorem releaseName_of_isNumbered {version : Text} (h : Version.isNumbered version = true) :
    releaseName version = .ok version := by
  unfold releaseName
  rw [Version.read_of_isNumbered h]
  rfl

theorem exists_read_of_releaseName {version name : Text} (h : releaseName version = .ok name) :
    ∃ v, Version.read version = .ok v ∧ name = v.releaseName := by
  unfold releaseName at h
  cases hread : Version.read version with
  | error e =>
      rw [hread] at h
      cases h
  | ok v =>
      rw [hread] at h
      exact ⟨v, rfl, (Except.ok.inj h).symm⟩

/-- A version without a dash that has a release name is stable. -/
theorem isNumbered_of_releaseName {version name : Text} (h : releaseName version = .ok name)
    (hdash : '-' ∉ version) : Version.isNumbered version = true := by
  obtain ⟨v, hread, -⟩ := exists_read_of_releaseName h
  unfold Version.read at hread
  rw [Text.pieces_of_not_mem hdash] at hread
  by_cases hn : Version.isNumbered version = true
  · exact hn
  · simp [hn] at hread

/-- A version with a plain stage that has a release name is read as a prerelease. -/
theorem readPrerelease_of_releaseName {numbers stage name : Text}
    (h : releaseName (numbers ++ '-' :: stage) = .ok name)
    (hstage : ∀ c ∈ stage, c.isAlphanum = true) :
    ∃ word number, Version.isNumbered numbers = true ∧
      Version.splitStage (Version.capitalizeStage stage) = .ok (word, number) ∧
      name = Version.releaseName (.prerelease (numbers.take (numbers.length - 2)) word number) := by
  have hdash : '-' ∉ stage := fun hmem => absurd (hstage _ hmem) (by decide)
  obtain ⟨v, hread, rfl⟩ := exists_read_of_releaseName h
  obtain ⟨-, hpre⟩ := Version.read_append_cons hdash hread
  obtain ⟨word, number, hnumbered, -, hsplit, rfl⟩ := Version.readPrerelease_eq_ok hpre
  exact ⟨word, number, hnumbered, hsplit, rfl⟩

/-! ## The name -/

/-- A name made of five words with blanks between them, the product being the first two. -/
structure HasWords (name series stage number : Text) : Prop where
  eq_join : name = Text.join [' '] ["Android".toList, "Studio".toList, series, stage, number]
  series_digits : ∀ c ∈ series, c.isDigit = true ∨ c = '.'
  stage_alphanum : ∀ c ∈ stage, c.isAlphanum = true
  number_digits : ∀ c ∈ number, c.isDigit = true

/-- A prerelease with a plain stage has a name made of words. -/
theorem hasWords_of_releaseName {version name : Text} (h : releaseName version = .ok name)
    (hplain : HasPlainStage version) :
    ∃ series stage number, HasWords name series stage number := by
  obtain ⟨numbers, suffix, rfl, hsuffix⟩ := hplain
  obtain ⟨word, number, hnumbered, hsplit, rfl⟩ := readPrerelease_of_releaseName h hsuffix
  obtain ⟨-, hword, hnumber, hdigits⟩ := Version.splitStage_eq_ok hsplit
  refine ⟨numbers.take (numbers.length - 2), word, number, rfl, ?_, ?_, ?_⟩
  · intro c hc
    exact Version.isDigit_or_eq_dot_of_isNumbered hnumbered (List.mem_of_mem_take hc)
  · intro c hc
    rw [hword] at hc
    exact Version.isAlphanum_of_mem_capitalizeStage hsuffix (List.mem_of_mem_take hc)
  · intro c hc
    rw [hnumber] at hc
    exact hdigits c ((Version.dropZero_sublist _).subset hc)

namespace HasWords

variable {name series stage number : Text}

/-- A name between two texts without blanks is cut at the blanks of the name. -/
theorem pieces_append (h : HasWords name series stage number) {a b : Text} (ha : ' ' ∉ a)
    (hb : ' ' ∉ b) :
    Text.pieces ' ' (a ++ (name ++ b)) =
      [a ++ "Android".toList, "Studio".toList, series, stage, number ++ b] := by
  have hseries : ' ' ∉ series := fun hmem => absurd (h.series_digits _ hmem) (by decide)
  have hstage : ' ' ∉ stage := fun hmem => absurd (h.stage_alphanum _ hmem) (by decide)
  have hnumber : ' ' ∉ number := fun hmem => absurd (h.number_digits _ hmem) (by decide)
  have hfirst : ' ' ∉ "Android".toList := by decide
  have hsecond : ' ' ∉ "Studio".toList := by decide
  have hjoin : a ++ (name ++ b) = Text.join [' ']
      [a ++ "Android".toList, "Studio".toList, series, stage, number ++ b] := by
    rw [h.eq_join]
    simp only [Text.join, List.append_assoc]
  rw [hjoin]
  apply Text.pieces_join (by simp)
  intro t ht
  simp only [List.mem_cons, List.not_mem_nil, or_false] at ht
  rcases ht with rfl | rfl | rfl | rfl | rfl
  · rw [List.mem_append, not_or]
    exact ⟨ha, hfirst⟩
  · exact hsecond
  · exact hseries
  · exact hstage
  · rw [List.mem_append, not_or]
    exact ⟨hnumber, hb⟩

theorem count_blank (h : HasWords name series stage number) : name.count ' ' = 4 := by
  have hpieces := h.pieces_append (List.not_mem_nil (a := ' ')) List.not_mem_nil
  have hlength := congrArg List.length hpieces
  rw [Text.length_pieces] at hlength
  simpa using hlength

theorem product_prefix (h : HasWords name series stage number) : Version.product <+: name := by
  rw [h.eq_join]
  exact ⟨_, rfl⟩

theorem ne_nil (h : HasWords name series stage number) : name ≠ [] := by
  intro hnil
  have hprefix := h.product_prefix
  rw [hnil, List.prefix_nil] at hprefix
  exact absurd hprefix (by decide)

/-- A name has only letters, digits and dots, and the blanks between its words. -/
theorem not_mem (h : HasWords name series stage number) {c : Char} (hc : c.isAlphanum = false)
    (hdot : c ≠ '.') (hblank : c ≠ ' ') : c ∉ name := by
  have hdigit : c.isDigit ≠ true := by
    intro hdigit
    rw [Char.isAlphanum, hdigit, Bool.or_true] at hc
    cases hc
  have hletters : ∀ w ∈ ["Android".toList, "Studio".toList], w.all Char.isAlphanum = true := by
    decide
  have hproduct : ∀ w ∈ ["Android".toList, "Studio".toList], c ∉ w := by
    intro w hw hmem
    exact absurd (List.all_eq_true.mp (hletters w hw) c hmem) (by simp [hc])
  have hfirst : c ∉ "Android".toList := hproduct _ (by simp)
  have hsecond : c ∉ "Studio".toList := hproduct _ (by simp)
  have hseries : c ∉ series := fun hmem => (h.series_digits c hmem).elim hdigit hdot
  have hstage : c ∉ stage := fun hmem => absurd (h.stage_alphanum c hmem) (by simp [hc])
  have hnumber : c ∉ number := fun hmem => hdigit (h.number_digits c hmem)
  rw [h.eq_join]
  simp only [Text.join, List.mem_append, List.mem_singleton, not_or]
  exact ⟨⟨hfirst, hblank⟩, ⟨hsecond, hblank⟩, ⟨hseries, hblank⟩, ⟨hstage, hblank⟩, hnumber⟩

theorem not_mem_lineFeed (h : HasWords name series stage number) : '\n' ∉ name :=
  h.not_mem (by decide) (by decide) (by decide)

end HasWords

end StudioLookup
