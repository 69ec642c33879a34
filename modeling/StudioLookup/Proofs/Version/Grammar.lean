import StudioLookup.Proofs.Text.Bytes
import StudioLookup.Proofs.Version.Words

set_option autoImplicit false

/-! # The grammar of versions

`Names` gives the versions that have a release and the name of it, and `Refused` the texts that are
no version, each with what is wrong with it. Every text is one or the other (`names_or_refused`),
and `releaseName_grammar` says that `releaseName` follows them: it accepts what has a name, with
that name, and refuses the rest, with that reason.

The stage words are capitalised before the number is cut off. Since a capitalised word is as long as
the word and neither has a digit, each digit stays in its place, and the number might as well be cut
off first (`splitStage_capitalizeStage`). `readInBytes?` counts lengths in bytes and cuts at
bytes, where a cut may be misplaced; none is (`readInBytes?_eq`).
-/

namespace StudioLookup

namespace Version

open Text (IsAscii Replaced)

/-! ## Numbers with dots -/

/-- A nonempty sequence of digits. -/
def Numeral (t : Text) : Prop := t ≠ [] ∧ ∀ c ∈ t, c.isDigit = true

/-- Three texts with dots between them. -/
def dotted (a b c : Text) : Text := a ++ '.' :: (b ++ '.' :: c)

variable {a b c : Text} {d : Char}

theorem isNumeral_iff {t : Text} : isNumeral t = true ↔ Numeral t := by
  simp [isNumeral, Numeral]

theorem Numeral.not_mem {t : Text} (h : Numeral t) {x : Char} (hx : x.isDigit = false) : x ∉ t := by
  intro hmem
  rw [h.2 x hmem] at hx
  cases hx

theorem numeral_singleton (h : d.isDigit = true) : Numeral [d] :=
  ⟨by simp, by simpa using h⟩

theorem pieces_dotted (ha : Numeral a) (hb : Numeral b) (hc : Numeral c) :
    Text.pieces '.' (dotted a b c) = [a, b, c] := by
  have hjoin : dotted a b c = Text.join ['.'] [a, b, c] := by simp [dotted, Text.join]
  rw [hjoin]
  apply Text.pieces_join (by simp)
  intro t ht
  simp only [List.mem_cons, List.not_mem_nil, or_false] at ht
  rcases ht with rfl | rfl | rfl
  · exact ha.not_mem rfl
  · exact hb.not_mem rfl
  · exact hc.not_mem rfl

theorem isNumbered_iff {t : Text} :
    isNumbered t = true ↔ ∃ a b c, Numeral a ∧ Numeral b ∧ Numeral c ∧ t = dotted a b c := by
  constructor
  · intro h
    obtain ⟨hlength, hall⟩ := Bool.and_eq_true_iff.mp h
    obtain ⟨a, b, c, habc⟩ := List.length_eq_three.mp (beq_iff_eq.mp hlength)
    rw [habc] at hall
    have hnumeral : ∀ p ∈ [a, b, c], Numeral p := fun p hp =>
      isNumeral_iff.mp (List.all_eq_true.mp hall p hp)
    refine ⟨a, b, c, hnumeral a (by simp), hnumeral b (by simp), hnumeral c (by simp), ?_⟩
    rw [← Text.join_pieces '.' t, habc]
    simp [dotted, Text.join]
  · rintro ⟨a, b, c, ha, hb, hc, rfl⟩
    rw [isNumbered, pieces_dotted ha hb hc]
    simp [isNumeral_iff.mpr ha, isNumeral_iff.mpr hb, isNumeral_iff.mpr hc]

theorem hasShortPatch_dotted (ha : Numeral a) (hb : Numeral b) (hc : Numeral c) :
    hasShortPatch (dotted a b c) = true ↔ c.length = 1 := by
  rw [hasShortPatch, pieces_dotted ha hb hc]
  simp

/-- The numbers of a prerelease: the last has one digit. -/
theorem isNumbered_and_hasShortPatch_iff {t : Text} :
    (isNumbered t && hasShortPatch t) = true ↔
      ∃ a b d, Numeral a ∧ Numeral b ∧ d.isDigit = true ∧ t = dotted a b [d] := by
  rw [Bool.and_eq_true_iff, isNumbered_iff]
  constructor
  · rintro ⟨⟨a, b, c, ha, hb, hc, rfl⟩, hpatch⟩
    obtain ⟨d, rfl⟩ := List.length_eq_one_iff.mp ((hasShortPatch_dotted ha hb hc).mp hpatch)
    exact ⟨a, b, d, ha, hb, hc.2 d (by simp), rfl⟩
  · rintro ⟨a, b, d, ha, hb, hd, rfl⟩
    have hc := numeral_singleton hd
    exact ⟨⟨a, b, [d], ha, hb, hc, rfl⟩, (hasShortPatch_dotted ha hb hc).mpr rfl⟩

/-- Without its last two characters the patch and its dot are gone. -/
theorem take_dotted (a b : Text) (d : Char) :
    (dotted a b [d]).take ((dotted a b [d]).length - 2) = a ++ '.' :: b := by
  have happend : dotted a b [d] = (a ++ '.' :: b) ++ ['.', d] := by simp [dotted]
  rw [happend, List.length_append]
  exact List.take_left' rfl

theorem not_dash_mem_dotted (ha : Numeral a) (hb : Numeral b) (hc : Numeral c) :
    '-' ∉ dotted a b c := by
  simp [dotted, ha.not_mem (show '-'.isDigit = false from rfl),
    hb.not_mem (show '-'.isDigit = false from rfl), hc.not_mem (show '-'.isDigit = false from rfl)]

/-! ## Capitalised stage words -/

/-- A digit as itself, and all other characters as nothing. -/
def digit? (x : Char) : Option Char := if x.isDigit then some x else none

theorem isDigit_eq_isSome_digit? (x : Char) : x.isDigit = (digit? x).isSome := by
  unfold digit?
  split
  · simp [*]
  · simp [*]

/-- No stage word is empty or has a digit, and each is as long as it is capitalised. -/
theorem stageWords_spec : ∀ w ∈ stageWords, w.1 ≠ [] ∧ (∀ x ∈ w.1, x.isDigit = false) ∧
    w.2.map digit? = w.1.map digit? := by
  intro w hw
  simp only [stageWords, List.mem_cons, List.not_mem_nil, or_false] at hw
  rcases hw with rfl | rfl | rfl | rfl <;> exact ⟨by decide, by simp, rfl⟩

/-- Capitalising keeps the digits in their places, and puts in none. -/
theorem map_digit?_capitalizeStage (t : Text) :
    (capitalizeStage t).map digit? = t.map digit? := by
  have hwords := stageWords_spec
  unfold capitalizeStage
  -- one replacement after the other; nothing is used of the words but what `hwords` says
  generalize stageWords = words at hwords ⊢
  induction words generalizing t with
  | nil => rfl
  | cons w words ih =>
      obtain ⟨hne, -, hdigits⟩ := hwords w List.mem_cons_self
      rw [List.foldl_cons, ih _ fun v hv => hwords v (List.mem_cons_of_mem w hv)]
      exact Text.map_replaceAll w.2 hne hdigits t

theorem length_capitalizeStage (t : Text) : (capitalizeStage t).length = t.length := by
  simpa using congrArg List.length (map_digit?_capitalizeStage t)

/-- Digits behind a stage are left alone. -/
theorem capitalizeStage_append {number : Text} (h : ∀ x ∈ number, x.isDigit = true) (word : Text) :
    capitalizeStage (word ++ number) = capitalizeStage word ++ number := by
  have hwords := stageWords_spec
  unfold capitalizeStage
  generalize stageWords = words at hwords ⊢
  induction words generalizing word with
  | nil => rfl
  | cons w words ih =>
      obtain ⟨hne, hdigits, -⟩ := hwords w List.mem_cons_self
      have hnumber : ∀ x ∈ number, x ∉ w.1 := by
        intro x hx hmem
        exact absurd (h x hx) (by rw [hdigits x hmem]; simp)
      rw [List.foldl_cons, List.foldl_cons, Text.replaceAll_append_of_not_mem w.2 hne hnumber]
      exact ih _ fun v hv => hwords v (List.mem_cons_of_mem w hv)

/-! ## The number of a stage -/

/-- The number of a stage as names write it. -/
def stageNumber (x y : Char) : Text := if x = '0' then [y] else [x, y]

theorem dropZero_pair (x y : Char) : dropZero [x, y] = stageNumber x y := by
  unfold stageNumber
  by_cases hx : x = '0'
  · rw [if_pos hx, hx, dropZero]
  · rw [if_neg hx]
    unfold dropZero
    split
    · rename_i heq
      exact absurd (List.cons.inj heq).1 hx
    · rfl

/-- A stage is too short, or a word with two characters behind it. -/
theorem short_or_exists_word (stage : Text) :
    stage.length < 3 ∨ ∃ word x y, word ≠ [] ∧ stage = word ++ [x, y] := by
  by_cases hlt : stage.length < 3
  · exact Or.inl hlt
  · right
    obtain ⟨x, y, hxy⟩ : ∃ x y, stage.drop (stage.length - 2) = [x, y] :=
      List.length_eq_two.mp (by rw [List.length_drop]; omega)
    refine ⟨stage.take (stage.length - 2), x, y, ?_, ?_⟩
    · intro hnil
      have hlength := congrArg List.length hnil
      rw [List.length_take, List.length_nil] at hlength
      omega
    · rw [← hxy, List.take_append_drop]

theorem splitStage_of_length_lt {stage : Text} (h : stage.length < 3) :
    splitStage stage = .error .shortStage := by
  rw [splitStage, if_pos h]

theorem splitStage_append {word : Text} (hword : word ≠ []) (x y : Char) :
    splitStage (word ++ [x, y]) =
      if x.isDigit && y.isDigit then .ok (word, stageNumber x y) else .error .unnumberedStage := by
  have hpos : 0 < word.length := List.length_pos_iff.mpr hword
  have hlength : (word ++ [x, y]).length = word.length + 2 := by simp
  rw [splitStage, hlength, if_neg (by omega), Nat.add_sub_cancel, List.take_left, List.drop_left]
  simp [dropZero_pair]

/-- **Capitalising before the number is cut off is the same as capitalising after it.** -/
theorem splitStage_capitalizeStage (stage : Text) :
    splitStage (capitalizeStage stage) =
      (splitStage stage).map fun (word, number) => (capitalizeStage word, number) := by
  rcases short_or_exists_word stage with hlt | ⟨word, x, y, hword, rfl⟩
  · rw [splitStage_of_length_lt hlt, splitStage_of_length_lt (by rwa [length_capitalizeStage])]
    rfl
  · by_cases hdigits : (x.isDigit && y.isDigit) = true
    · -- the number is left alone
      obtain ⟨hx, hy⟩ := Bool.and_eq_true_iff.mp hdigits
      have hnumber : ∀ z ∈ [x, y], z.isDigit = true := by simp [hx, hy]
      have hword' : capitalizeStage word ≠ [] := by
        rwa [← List.length_pos_iff, length_capitalizeStage, List.length_pos_iff]
      rw [capitalizeStage_append hnumber, splitStage_append hword', splitStage_append hword,
        if_pos hdigits, if_pos hdigits]
      rfl
    · -- where there was no digit there is none now
      obtain ⟨word', x', y', hword', heq⟩ : ∃ word' x' y', word' ≠ [] ∧
          capitalizeStage (word ++ [x, y]) = word' ++ [x', y'] := by
        rcases short_or_exists_word (capitalizeStage (word ++ [x, y])) with hlt | hlong
        · have hpos : 0 < word.length := List.length_pos_iff.mpr hword
          rw [length_capitalizeStage, List.length_append] at hlt
          exact absurd hlt (by simp; omega)
        · exact hlong
      have hkept := map_digit?_capitalizeStage (word ++ [x, y])
      rw [heq, List.map_append, List.map_append] at hkept
      obtain ⟨-, hends⟩ := List.append_inj' hkept rfl
      simp only [List.map_cons, List.map_nil, List.cons.injEq, and_true] at hends
      rw [heq, splitStage_append hword', splitStage_append hword, isDigit_eq_isSome_digit? x',
        isDigit_eq_isSome_digit? y', hends.1, hends.2, ← isDigit_eq_isSome_digit?,
        ← isDigit_eq_isSome_digit?, if_neg hdigits, if_neg hdigits]
      rfl

/-! ## Reading -/

theorem read_of_not_mem {t : Text} (h : '-' ∉ t) :
    read t = if isNumbered t then .ok (.stable t) else .error .notNumeric := by
  rw [read, Text.pieces_of_not_mem h]

theorem read_append {numbers stage : Text} (hnumbers : '-' ∉ numbers) (hstage : '-' ∉ stage) :
    read (numbers ++ '-' :: stage) =
      if (numbers ++ '-' :: stage).all (·.toNat < 128) then readPrerelease numbers stage
      else .error .notAscii := by
  rw [read, Text.pieces_append_cons, Text.pieces_of_not_mem hnumbers,
    Text.pieces_of_not_mem hstage]
  rfl

theorem read_of_two_le_count {t : Text} (h : 2 ≤ t.count '-') : read t = .error .severalDashes := by
  have hlength : 3 ≤ (Text.pieces '-' t).length := by
    rw [Text.length_pieces]
    omega
  unfold read
  split
  · rename_i heq
    rw [heq] at hlength
    exact absurd hlength (by simp)
  · rename_i heq
    rw [heq] at hlength
    exact absurd hlength (by simp)
  · rfl

/-- A text has no dash, one dash, or several. -/
theorem dash_cases (t : Text) :
    '-' ∉ t ∨ (∃ numbers stage, '-' ∉ numbers ∧ '-' ∉ stage ∧ t = numbers ++ '-' :: stage) ∨
      2 ≤ t.count '-' := by
  by_cases hmem : '-' ∈ t
  · obtain ⟨numbers, stage, rfl, hnumbers⟩ := List.eq_append_cons_of_mem hmem
    by_cases hstage : '-' ∈ stage
    · have hpos : 0 < stage.count '-' := List.count_pos_iff.mpr hstage
      refine Or.inr (Or.inr ?_)
      rw [List.count_append, List.count_cons_self]
      omega
    · exact Or.inr (Or.inl ⟨numbers, stage, hnumbers, hstage, rfl⟩)
  · exact Or.inl hmem

theorem readPrerelease_dotted (ha : Numeral a) (hb : Numeral b) (hd : d.isDigit = true)
    (stage : Text) :
    readPrerelease (dotted a b [d]) stage = (splitStage stage).map fun (word, number) =>
      .prerelease (a ++ '.' :: b) (capitalizeStage word) number := by
  have hnumbers := isNumbered_and_hasShortPatch_iff.mpr ⟨a, b, d, ha, hb, hd, rfl⟩
  rw [readPrerelease, if_pos hnumbers, splitStage_capitalizeStage, take_dotted]
  cases splitStage stage with
  | error e => rfl
  | ok parts => rfl

/-! ## The grammar -/

/-- `u` is `t` with the stage words capitalised, one word after the other. -/
def Capitalized (t u : Text) : Prop :=
  ∃ t₁ t₂ t₃, Replaced "alpha".toList "Alpha".toList t t₁ ∧
    Replaced "beta".toList "Beta".toList t₁ t₂ ∧ Replaced "canary".toList "Canary".toList t₂ t₃ ∧
    Replaced "rc".toList "RC".toList t₃ u

theorem capitalized_iff {t u : Text} : Capitalized t u ↔ capitalizeStage t = u := by
  have halpha : "alpha".toList ≠ [] := by decide
  have hbeta : "beta".toList ≠ [] := by decide
  have hcanary : "canary".toList ≠ [] := by decide
  have hrc : "rc".toList ≠ [] := by decide
  simp only [Capitalized, ← Text.replaceAll_eq_iff _ halpha, ← Text.replaceAll_eq_iff _ hbeta,
    ← Text.replaceAll_eq_iff _ hcanary, ← Text.replaceAll_eq_iff _ hrc]
  constructor
  · rintro ⟨_, _, _, rfl, rfl, rfl, rfl⟩
    rfl
  · rintro rfl
    exact ⟨_, _, _, rfl, rfl, rfl, rfl⟩

/-- The texts that are versions, and the name of the release of each. -/
inductive Names : Text → Text → Prop where
  /-- A stable version is the name itself. -/
  | stable {a b c : Text} :
      Numeral a → Numeral b → Numeral c → Names (dotted a b c) (dotted a b c)
  /-- The name of a prerelease has neither its patch nor the zero before its number. -/
  | prerelease {a b word stage : Text} {d x y : Char} :
      Numeral a → Numeral b → d.isDigit = true →
      word ≠ [] → '-' ∉ word → IsAscii word → x.isDigit = true → y.isDigit = true →
      Capitalized word stage →
      Names (dotted a b [d] ++ '-' :: (word ++ [x, y]))
        ("Android Studio ".toList ++ (a ++ '.' :: b) ++ ' ' :: (stage ++ ' ' :: stageNumber x y))

/-- The texts that are no version, and what is wrong with each. -/
inductive Refused : Text → VersionFault → Prop where
  | notNumeric {t : Text} :
      '-' ∉ t → (∀ a b c, Numeral a → Numeral b → Numeral c → t ≠ dotted a b c) →
      Refused t .notNumeric
  | severalDashes {t : Text} :
      2 ≤ t.count '-' → Refused t .severalDashes
  | notAscii {numbers stage : Text} :
      '-' ∉ numbers → '-' ∉ stage → ¬ IsAscii (numbers ++ '-' :: stage) →
      Refused (numbers ++ '-' :: stage) .notAscii
  | badNumbers {numbers stage : Text} :
      '-' ∉ numbers → '-' ∉ stage → IsAscii (numbers ++ '-' :: stage) →
      (∀ a b d, Numeral a → Numeral b → d.isDigit = true → numbers ≠ dotted a b [d]) →
      Refused (numbers ++ '-' :: stage) .badNumbers
  | shortStage {a b stage : Text} {d : Char} :
      Numeral a → Numeral b → d.isDigit = true → '-' ∉ stage → IsAscii stage →
      stage.length < 3 → Refused (dotted a b [d] ++ '-' :: stage) .shortStage
  | unnumberedStage {a b word : Text} {d x y : Char} :
      Numeral a → Numeral b → d.isDigit = true → '-' ∉ word ++ [x, y] → IsAscii (word ++ [x, y]) →
      word ≠ [] → ¬ (x.isDigit = true ∧ y.isDigit = true) →
      Refused (dotted a b [d] ++ '-' :: (word ++ [x, y])) .unnumberedStage

theorem toNat_lt_of_isDigit {x : Char} (h : x.isDigit = true) : x.toNat < 128 := by
  have hle : x.toNat ≤ '9'.toNat := (Char.isDigit_iff_toNat.mp h).2
  exact Nat.lt_of_le_of_lt hle (by decide)

theorem isAscii_of_numeral {t : Text} (h : Numeral t) : IsAscii t := fun x hx =>
  toNat_lt_of_isDigit (h.2 x hx)

theorem isAscii_dotted (ha : Numeral a) (hb : Numeral b) (hc : Numeral c) :
    IsAscii (dotted a b c) := by
  simp [dotted, Text.isAscii_append_iff, Text.isAscii_cons_iff, isAscii_of_numeral ha,
    isAscii_of_numeral hb, isAscii_of_numeral hc]

/-- The numbers and the dash of a prerelease are in ASCII. -/
theorem isAscii_dotted_append_iff (ha : Numeral a) (hb : Numeral b) (hc : Numeral c)
    {stage : Text} : IsAscii (dotted a b c ++ '-' :: stage) ↔ IsAscii stage := by
  simp [Text.isAscii_append_iff, Text.isAscii_cons_iff, isAscii_dotted ha hb hc]

theorem read_dotted (ha : Numeral a) (hb : Numeral b) (hd : d.isDigit = true) {stage : Text}
    (hstage : '-' ∉ stage) (hascii : IsAscii stage) :
    read (dotted a b [d] ++ '-' :: stage) = (splitStage stage).map fun (word, number) =>
      .prerelease (a ++ '.' :: b) (capitalizeStage word) number := by
  have hpatch := numeral_singleton hd
  have hnumbers := not_dash_mem_dotted ha hb hpatch
  have hall := Text.isAscii_iff.mpr ((isAscii_dotted_append_iff ha hb hpatch).mpr hascii)
  rw [read_append hnumbers hstage, if_pos hall, readPrerelease_dotted ha hb hd]

theorem read_of_refused {t : Text} {e : VersionFault} (h : Refused t e) : read t = .error e := by
  cases h with
  | notNumeric hdash hnone =>
      have hnumbered : ¬ isNumbered t = true := by
        rw [isNumbered_iff]
        rintro ⟨a, b, c, ha, hb, hc, heq⟩
        exact hnone a b c ha hb hc heq
      rw [read_of_not_mem hdash, if_neg hnumbered]
  | severalDashes hcount => exact read_of_two_le_count hcount
  | notAscii hnumbers hstage hascii =>
      rw [read_append hnumbers hstage, if_neg fun hall => hascii (Text.isAscii_iff.mp hall)]
  | @badNumbers numbers stage hnumbers hstage hascii hnone =>
      have hbad : ¬ (isNumbered numbers && hasShortPatch numbers) = true := by
        rw [isNumbered_and_hasShortPatch_iff]
        rintro ⟨a, b, d, ha, hb, hd, heq⟩
        exact hnone a b d ha hb hd heq
      rw [read_append hnumbers hstage, if_pos (Text.isAscii_iff.mpr hascii), readPrerelease,
        if_neg hbad]
  | shortStage ha hb hd hstage hascii hshort =>
      rw [read_dotted ha hb hd hstage hascii, splitStage_of_length_lt hshort]
      rfl
  | @unnumberedStage _ _ _ _ x y ha hb hd hstage hascii hword hdigits =>
      have hand : ¬ (x.isDigit && y.isDigit) = true := by rwa [Bool.and_eq_true_iff]
      rw [read_dotted ha hb hd hstage hascii, splitStage_append hword, if_neg hand]
      rfl

theorem read_of_names {t name : Text} (h : Names t name) :
    ∃ v, read t = .ok v ∧ v.releaseName = name := by
  cases h with
  | stable ha hb hc =>
      exact ⟨_, read_of_isNumbered (isNumbered_iff.mpr ⟨_, _, _, ha, hb, hc, rfl⟩), rfl⟩
  | @prerelease a b word stage d x y ha hb hd hne hdash hascii hx hy hstage =>
      have hnumber : Numeral [x, y] := ⟨by simp, by simp [hx, hy]⟩
      have hdashAll : '-' ∉ word ++ [x, y] := by
        rw [List.mem_append, not_or]
        exact ⟨hdash, hnumber.not_mem rfl⟩
      have hasciiAll := Text.isAscii_append_iff.mpr ⟨hascii, isAscii_of_numeral hnumber⟩
      obtain rfl := capitalized_iff.mp hstage
      refine ⟨.prerelease (a ++ '.' :: b) (capitalizeStage word) (stageNumber x y), ?_, ?_⟩
      · rw [read_dotted ha hb hd hdashAll hasciiAll, splitStage_append hne,
          if_pos (Bool.and_eq_true_iff.mpr ⟨hx, hy⟩)]
        rfl
      · have hproduct : "Android Studio ".toList = product ++ [' '] := by decide
        simp [releaseName, Text.join, hproduct]

/-- Every text is a version or is refused. -/
theorem names_or_refused (t : Text) : (∃ name, Names t name) ∨ ∃ e, Refused t e := by
  rcases dash_cases t with hdash | ⟨numbers, stage, hnumbers, hstage, rfl⟩ | hcount
  · -- without a dash it is a stable version or nothing
    by_cases hnumbered : ∃ a b c, Numeral a ∧ Numeral b ∧ Numeral c ∧ t = dotted a b c
    · obtain ⟨a, b, c, ha, hb, hc, rfl⟩ := hnumbered
      exact Or.inl ⟨_, .stable ha hb hc⟩
    · refine Or.inr ⟨_, .notNumeric hdash fun a b c ha hb hc heq => hnumbered ?_⟩
      exact ⟨a, b, c, ha, hb, hc, heq⟩
  · -- with one dash the checks are those of a prerelease, in their order
    by_cases hascii : IsAscii (numbers ++ '-' :: stage)
    · by_cases hseries :
          ∃ a b d, Numeral a ∧ Numeral b ∧ d.isDigit = true ∧ numbers = dotted a b [d]
      · obtain ⟨a, b, d, ha, hb, hd, rfl⟩ := hseries
        have hstageAscii := (isAscii_dotted_append_iff ha hb (numeral_singleton hd)).mp hascii
        rcases short_or_exists_word stage with hshort | ⟨word, x, y, hword, rfl⟩
        · exact Or.inr ⟨_, .shortStage ha hb hd hstage hstageAscii hshort⟩
        · by_cases hdigits : x.isDigit = true ∧ y.isDigit = true
          · left
            refine ⟨_, .prerelease ha hb hd hword ?_ ?_ hdigits.1 hdigits.2
              (capitalized_iff.mpr rfl)⟩
            · exact fun hmem => hstage (List.mem_append_left _ hmem)
            · exact (Text.isAscii_append_iff.mp hstageAscii).1
          · exact Or.inr ⟨_, .unnumberedStage ha hb hd hstage hstageAscii hword hdigits⟩
      · refine Or.inr ⟨_, .badNumbers hnumbers hstage hascii fun a b d ha hb hd heq => hseries ?_⟩
        exact ⟨a, b, d, ha, hb, hd, heq⟩
    · exact Or.inr ⟨_, .notAscii hnumbers hstage hascii⟩
  · exact Or.inr ⟨_, .severalDashes hcount⟩

/-! ## Cuts at bytes -/

/-- Like `hasShortPatch`, with the length in bytes. -/
def hasShortPatchInBytes (t : Text) : Bool :=
  match (Text.pieces '.' t).getLast? with
  | some patch => Text.byteCount patch == 1
  | none => false

/-- Like `splitStage`, with lengths and the cut in bytes; nothing if the cut is misplaced. -/
def splitStageInBytes? (t : Text) : Option (Except VersionFault (Text × Text)) :=
  if Text.byteCount t < 3 then some (.error .shortStage)
  else
    match Text.cutBeforeLast? 2 t with
    | some (word, number) =>
        some (if number.all Char.isDigit then .ok (word, dropZero number)
          else .error .unnumberedStage)
    | none => none

/-- Like `readPrerelease`, with lengths and cuts in bytes; nothing if a cut is misplaced. -/
def readPrereleaseInBytes? (numbers stage : Text) : Option (Except VersionFault Version) :=
  if isNumbered numbers && hasShortPatchInBytes numbers then
    match Text.cutBeforeLast? 2 numbers with
    | some (series, _) =>
        (splitStageInBytes? (capitalizeStage stage)).map fun parts =>
          parts.map fun (word, number) => .prerelease series word number
    | none => none
  else some (.error .badNumbers)

/-- Like `read`, with lengths and cuts in bytes; nothing if a cut is misplaced. -/
def readInBytes? (t : Text) : Option (Except VersionFault Version) :=
  match Text.pieces '-' t with
  | [_] => some (if isNumbered t then .ok (.stable t) else .error .notNumeric)
  | [numbers, stage] =>
      if t.all (·.toNat < 128) then readPrereleaseInBytes? numbers stage
      else some (.error .notAscii)
  | _ => some (.error .severalDashes)

theorem isAscii_capitalizeStage {t : Text} (h : IsAscii t) : IsAscii (capitalizeStage t) := by
  have hwords : ∀ w ∈ stageWords, w.2.all (·.toNat < 128) = true := by decide
  intro x hx
  rcases mem_capitalizeStage hx with hx | ⟨w, hw, hx⟩
  · exact h x hx
  · exact Text.isAscii_iff.mp (hwords w hw) x hx

theorem splitStageInBytes?_eq {t : Text} (h : IsAscii t) :
    splitStageInBytes? t = some (splitStage t) := by
  rw [splitStageInBytes?, splitStage, Text.byteCount_of_isAscii h]
  by_cases hlt : t.length < 3
  · rw [if_pos hlt, if_pos hlt]
  · rw [if_neg hlt, if_neg hlt, Text.cutBeforeLast?_of_isAscii h (by omega)]

theorem hasShortPatchInBytes_dotted (ha : Numeral a) (hb : Numeral b) (hc : Numeral c) :
    hasShortPatchInBytes (dotted a b c) = hasShortPatch (dotted a b c) := by
  rw [hasShortPatchInBytes, hasShortPatch, pieces_dotted ha hb hc]
  exact congrArg (· == 1) (Text.byteCount_of_isAscii (isAscii_of_numeral hc))

theorem readPrereleaseInBytes?_eq {numbers stage : Text} (hstage : IsAscii stage) :
    readPrereleaseInBytes? numbers stage = some (readPrerelease numbers stage) := by
  rw [readPrereleaseInBytes?, readPrerelease]
  by_cases hnumbered : isNumbered numbers = true
  · obtain ⟨a, b, c, ha, hb, hc, rfl⟩ := isNumbered_iff.mp hnumbered
    -- numbers with dots are in ASCII, so the patch ends at the same place in bytes
    have hlength : 2 ≤ (dotted a b c).length := by simp [dotted]; omega
    rw [hasShortPatchInBytes_dotted ha hb hc,
      Text.cutBeforeLast?_of_isAscii (isAscii_dotted ha hb hc) hlength,
      splitStageInBytes?_eq (isAscii_capitalizeStage hstage)]
    cases splitStage (capitalizeStage stage) with
    | error e => split <;> rfl
    | ok parts => split <;> rfl
  · rw [Bool.not_eq_true] at hnumbered
    rw [hnumbered, Bool.false_and, Bool.false_and]
    rfl

/-- **No cut is misplaced**, and counting in bytes comes to the same as counting characters. -/
theorem readInBytes?_eq (t : Text) : readInBytes? t = some (read t) := by
  have hjoin := Text.join_pieces '-' t
  unfold readInBytes? read
  cases hp : Text.pieces '-' t with
  | nil => exact absurd hp (Text.pieces_ne_nil '-' t)
  | cons numbers ps =>
      cases ps with
      | nil => rfl
      | cons stage qs =>
          cases qs with
          | nil =>
              -- the only case with a cut, which is made after the check for ASCII
              rw [hp] at hjoin
              by_cases hall : t.all (·.toNat < 128) = true
              · have hstage : IsAscii stage := by
                  intro x hx
                  refine Text.isAscii_iff.mp hall x ?_
                  rw [← hjoin]
                  simp [Text.join, hx]
                simp only [if_pos hall]
                exact readPrereleaseInBytes?_eq hstage
              · simp only [if_neg hall]
          | cons q qs => rfl

end Version

/-! ## Names and refusals -/

/-- **A version is named by its grammar.** A text has a release name exactly if it is a version, and
then the one that the grammar gives it; all other texts are refused as of the wrong format, with the
text and what is wrong with it. The stage words may be capitalised before the number is cut off or
after, and reading in bytes, no cut is out of range or inside a character. -/
theorem releaseName_grammar (version : Text) :
    (∀ name, releaseName version = .ok name ↔ Version.Names version name) ∧
      (∀ f, releaseName version = .error f ↔ ∃ e, Version.Refused version e ∧
        f = .ofKind .format ('\x27' :: version ++ "': ".toList ++ e.reason)) ∧
      (∀ stage, Version.splitStage (Version.capitalizeStage stage) =
        (Version.splitStage stage).map fun (word, number) =>
          (Version.capitalizeStage word, number)) ∧
      Version.readInBytes? version = some (Version.read version) := by
  have hok : ∀ {name}, Version.Names version name → releaseName version = .ok name := by
    intro name h
    obtain ⟨v, hread, hname⟩ := Version.read_of_names h
    rw [releaseName, hread, ← hname]
  have herror : ∀ {e}, Version.Refused version e →
      releaseName version = .error (e.failure version) := by
    intro e h
    rw [releaseName, Version.read_of_refused h]
  refine ⟨fun name => ⟨fun h => ?_, hok⟩, fun f => ⟨fun h => ?_, ?_⟩,
    Version.splitStage_capitalizeStage, Version.readInBytes?_eq version⟩
  · rcases Version.names_or_refused version with ⟨name', hname⟩ | ⟨e, he⟩
    · have heq := h.symm.trans (hok hname)
      rwa [Except.ok.inj heq]
    · exact absurd (h.symm.trans (herror he)) (by simp)
  · rcases Version.names_or_refused version with ⟨name', hname⟩ | ⟨e, he⟩
    · exact absurd (h.symm.trans (hok hname)) (by simp)
    · exact ⟨e, he, Except.error.inj (h.symm.trans (herror he))⟩
  · rintro ⟨e, he, rfl⟩
    exact herror he

/-- Overlapping stage words, and a number with a zero before it. -/
example : releaseName "3.10.0-rcanary00".toList = .ok "Android Studio 3.10 rCanary 0".toList := by
  rfl

end StudioLookup
