import StudioLookup.Proofs.Version.Grammar

set_option autoImplicit false

/-! # Versions that share a release name

The name of a release keeps most of its version: all of a stable version, and of a prerelease the
two numbers of its series, the capitalised word of its stage and the number of its stage. What it
loses is the patch of a prerelease and how the stage words were capitalised, and nothing more:
`releaseName_eq_iff` says that two versions share a name exactly if they agree on what is kept.

The parts are recovered from a name by its blanks. The word of a stage may hold blanks, digits and
dots itself, so a name is cut at its *first* blank behind the product, which ends the series, and
at its *last* one, which begins the number (`Prerelease.name_eq_iff`). The number has lost its
leading zero, and its length tells whether there was one (`stageNumber_inj`).
-/

namespace StudioLookup

namespace Version

open Text (IsAscii)

/-! ## Prereleases by their parts -/

/-- A prerelease, by the parts of its text. -/
structure Prerelease where
  major : Text
  minor : Text
  patch : Char
  /-- The stage up to its number. -/
  word : Text
  /-- The two digits of the number. -/
  tens : Char
  units : Char
  major_numeral : Numeral major
  minor_numeral : Numeral minor
  patch_digit : patch.isDigit = true
  word_ne_nil : word ≠ []
  word_dashless : '-' ∉ word
  word_ascii : IsAscii word
  tens_digit : tens.isDigit = true
  units_digit : units.isDigit = true

namespace Prerelease

/-- The version as it is written. -/
def text (p : Prerelease) : Text :=
  dotted p.major p.minor [p.patch] ++ '-' :: (p.word ++ [p.tens, p.units])

/-- The name of its release. -/
def name (p : Prerelease) : Text :=
  product ++ ' ' :: ((p.major ++ '.' :: p.minor) ++
    ' ' :: (capitalizeStage p.word ++ ' ' :: stageNumber p.tens p.units))

/-- Two prereleases that differ at most in their patch and the capitals of their stage words. -/
structure SameRelease (p p' : Prerelease) : Prop where
  major_eq : p.major = p'.major
  minor_eq : p.minor = p'.minor
  stage_eq : capitalizeStage p.word = capitalizeStage p'.word
  tens_eq : p.tens = p'.tens
  units_eq : p.units = p'.units

theorem read_text (p : Prerelease) :
    read p.text = .ok (.prerelease (p.major ++ '.' :: p.minor) (capitalizeStage p.word)
      (stageNumber p.tens p.units)) := by
  have hnumber : Numeral [p.tens, p.units] := ⟨by simp, by simp [p.tens_digit, p.units_digit]⟩
  have hdash : '-' ∉ p.word ++ [p.tens, p.units] := by
    rw [List.mem_append, not_or]
    exact ⟨p.word_dashless, hnumber.not_mem rfl⟩
  have hascii : IsAscii (p.word ++ [p.tens, p.units]) :=
    Text.isAscii_append_iff.mpr ⟨p.word_ascii, isAscii_of_numeral hnumber⟩
  rw [text, read_dotted p.major_numeral p.minor_numeral p.patch_digit hdash hascii,
    splitStage_append p.word_ne_nil, p.tens_digit, p.units_digit]
  rfl

end Prerelease

/-- A version is stable, or a prerelease. -/
theorem Names.stable_or_prerelease {version name : Text} (h : Names version name) :
    isNumbered version = true ∨ ∃ p : Prerelease, p.text = version := by
  cases h with
  | stable ha hb hc => exact Or.inl (isNumbered_iff.mpr ⟨_, _, _, ha, hb, hc, rfl⟩)
  | prerelease ha hb hd hne hdash hascii hx hy _ =>
      exact Or.inr ⟨⟨_, _, _, _, _, _, ha, hb, hd, hne, hdash, hascii, hx, hy⟩, rfl⟩

/-! ## Recovering the parts from a name -/

/-- The length of a number tells whether a zero was dropped from it, so both of its digits can be
read back. -/
theorem stageNumber_inj {x y x' y' : Char} :
    stageNumber x y = stageNumber x' y' ↔ x = x' ∧ y = y' := by
  constructor
  · intro h
    have hlength := congrArg List.length h
    unfold stageNumber at h hlength
    by_cases hx : x = '0'
    · by_cases hx' : x' = '0'
      · rw [if_pos hx, if_pos hx'] at h
        exact ⟨hx.trans hx'.symm, List.singleton_inj.mp h⟩
      · rw [if_pos hx, if_neg hx'] at hlength
        exact absurd hlength (by simp)
    · by_cases hx' : x' = '0'
      · rw [if_neg hx, if_pos hx'] at hlength
        exact absurd hlength (by simp)
      · rw [if_neg hx, if_neg hx'] at h
        simpa using h
  · rintro ⟨rfl, rfl⟩
    rfl

theorem isDigit_of_mem_stageNumber {x y c : Char} (hx : x.isDigit = true) (hy : y.isDigit = true)
    (hc : c ∈ stageNumber x y) : c.isDigit = true := by
  have hdigits : ∀ d ∈ [x, y], d.isDigit = true := by simp [hx, hy]
  rw [← dropZero_pair] at hc
  exact hdigits c ((dropZero_sublist _).subset hc)

namespace Prerelease

variable (p p' : Prerelease)

theorem not_blank_mem_series : ' ' ∉ p.major ++ '.' :: p.minor := by
  have hmajor : ' ' ∉ p.major := p.major_numeral.not_mem rfl
  have hminor : ' ' ∉ p.minor := p.minor_numeral.not_mem rfl
  simp [hmajor, hminor]

theorem not_blank_mem_number : ' ' ∉ stageNumber p.tens p.units := by
  intro hmem
  have hdigit := isDigit_of_mem_stageNumber p.tens_digit p.units_digit hmem
  exact absurd hdigit (by decide)

/-- **A name determines what it keeps of a version.** -/
theorem name_eq_iff : p.name = p'.name ↔ p.SameRelease p' := by
  constructor
  · intro h
    have hbehind : (p.major ++ '.' :: p.minor) ++
          ' ' :: (capitalizeStage p.word ++ ' ' :: stageNumber p.tens p.units) =
        (p'.major ++ '.' :: p'.minor) ++
          ' ' :: (capitalizeStage p'.word ++ ' ' :: stageNumber p'.tens p'.units) :=
      (List.cons.inj (List.append_cancel_left h)).2
    -- the series ends at the first blank, the number begins behind the last
    obtain ⟨hseries, hrest⟩ := Text.append_cons_inj_of_not_mem_left p.not_blank_mem_series
      p'.not_blank_mem_series hbehind
    obtain ⟨hstage, hnumber⟩ := Text.append_cons_inj_of_not_mem_right p.not_blank_mem_number
      p'.not_blank_mem_number hrest
    obtain ⟨hmajor, hminor⟩ := Text.append_cons_inj_of_not_mem_left
      (p.major_numeral.not_mem rfl) (p'.major_numeral.not_mem rfl) hseries
    obtain ⟨htens, hunits⟩ := stageNumber_inj.mp hnumber
    exact ⟨hmajor, hminor, hstage, htens, hunits⟩
  · intro h
    rw [name, name, h.major_eq, h.minor_eq, h.stage_eq, h.tens_eq, h.units_eq]

/-- A stable version, which has no letter, is not the name of a prerelease. -/
theorem name_ne_of_isNumbered {version : Text} (h : isNumbered version = true) :
    version ≠ p.name := by
  intro heq
  have hproduct : 'A' ∈ product := by decide
  have hletter : 'A' ∈ version := by
    rw [heq]
    exact List.mem_append_left _ hproduct
  rcases isDigit_or_eq_dot_of_isNumbered h hletter with hdigit | hdot
  · exact absurd hdigit (by decide)
  · exact absurd hdot (by decide)

end Prerelease

end Version

/-! ## Versions with one name -/

/-- A version that has a release name is stable, or a prerelease. -/
theorem stable_or_prerelease_of_releaseName {version name : Text}
    (h : releaseName version = .ok name) :
    Version.isNumbered version = true ∨ ∃ p : Version.Prerelease, p.text = version := by
  rcases Version.names_or_refused version with ⟨name', hnames⟩ | ⟨e, hrefused⟩
  · exact hnames.stable_or_prerelease
  · rw [releaseName, Version.read_of_refused hrefused] at h
    cases h

/-- The release of a stable version has no other name than the version. -/
theorem eq_of_isNumbered {version name : Text} (h : releaseName version = .ok name)
    (hn : Version.isNumbered version = true) : name = version :=
  Except.ok.inj (h.symm.trans (releaseName_of_isNumbered hn))

/-- The parts of a prerelease give the name of its release. -/
theorem eq_name_of_releaseName {p : Version.Prerelease} {name : Text}
    (h : releaseName p.text = .ok name) : name = p.name := by
  obtain ⟨v, hread, rfl⟩ := exists_read_of_releaseName h
  have hv : v = .prerelease (p.major ++ '.' :: p.minor) (Version.capitalizeStage p.word)
      (Version.stageNumber p.tens p.units) := Except.ok.inj (hread.symm.trans p.read_text)
  rw [hv]
  simp [Version.Prerelease.name, Version.releaseName, Text.join]

section

variable {version version' name name' : Text} {p p' : Version.Prerelease}
  (h : releaseName version = .ok name) (h' : releaseName version' = .ok name')

include h h'

theorem name_eq_iff_of_text (hp : p.text = version) (hp' : p'.text = version') :
    name = name' ↔ p.SameRelease p' := by
  subst hp hp'
  rw [eq_name_of_releaseName h, eq_name_of_releaseName h']
  exact p.name_eq_iff p'

theorem name_ne_of_isNumbered (hn : Version.isNumbered version = true) (hp' : p'.text = version') :
    name ≠ name' := by
  subst hp'
  rw [eq_of_isNumbered h hn, eq_name_of_releaseName h']
  exact p'.name_ne_of_isNumbered hn

end

/-- **Release names collide only by design.** Two versions that have a release name have the same
one exactly if they are one stable version, or if they are prereleases with the same numbers in
their series, the same two digits at their end and the same word before these once it is
capitalised. This holds however the word is written, and a stable version never has the name of a
prerelease. -/
theorem releaseName_eq_iff {version version' name name' : Text}
    (h : releaseName version = .ok name) (h' : releaseName version' = .ok name') :
    (name = name' ↔
        (Version.isNumbered version = true ∧ Version.isNumbered version' = true ∧
            version = version') ∨
          ∃ p p' : Version.Prerelease, p.text = version ∧ p'.text = version' ∧ p.SameRelease p') ∧
      (∀ p p' : Version.Prerelease, p.text = version → p'.text = version' →
        (name = name' ↔ p.SameRelease p')) ∧
      ∀ p' : Version.Prerelease, Version.isNumbered version = true → p'.text = version' →
        name ≠ name' := by
  refine ⟨⟨fun heq => ?_, ?_⟩, fun _ _ => name_eq_iff_of_text h h',
    fun _ => name_ne_of_isNumbered h h'⟩
  · rcases stable_or_prerelease_of_releaseName h with hn | ⟨p, hp⟩
    · rcases stable_or_prerelease_of_releaseName h' with hn' | ⟨p', hp'⟩
      · have hversion : version = version' := by
          rw [← eq_of_isNumbered h hn, heq, eq_of_isNumbered h' hn']
        exact Or.inl ⟨hn, hn', hversion⟩
      · exact absurd heq (name_ne_of_isNumbered h h' hn hp')
    · rcases stable_or_prerelease_of_releaseName h' with hn' | ⟨p', hp'⟩
      · exact absurd heq.symm (name_ne_of_isNumbered h' h hn' hp)
      · exact Or.inr ⟨p, p', hp, hp', (name_eq_iff_of_text h h' hp hp').mp heq⟩
  · rintro (⟨-, -, rfl⟩ | ⟨p, p', hp, hp', hsame⟩)
    · exact Except.ok.inj (h.symm.trans h')
    · exact (name_eq_iff_of_text h h' hp hp').mpr hsame

/-- A hundredth canary has the word `canary1` and the number 00. It shares its name with the same
stage of another patch in which the word is already capitalised. -/
theorem releaseName_eq_iff_canaries :
    releaseName "3.4.0-canary100".toList = .ok "Android Studio 3.4 Canary1 0".toList ∧
      releaseName "3.4.1-Canary100".toList = .ok "Android Studio 3.4 Canary1 0".toList ∧
      ∃ p p' : Version.Prerelease, p.text = "3.4.0-canary100".toList ∧
        p'.text = "3.4.1-Canary100".toList ∧ p.SameRelease p' := by
  have h : releaseName "3.4.0-canary100".toList = .ok "Android Studio 3.4 Canary1 0".toList := by
    rfl
  have h' : releaseName "3.4.1-Canary100".toList = .ok "Android Studio 3.4 Canary1 0".toList := by
    rfl
  refine ⟨h, h', ?_⟩
  rcases (releaseName_eq_iff h h').1.mp rfl with ⟨hstable, -⟩ | hshared
  · exact absurd hstable (by decide)
  · exact hshared

end StudioLookup
