import StudioLookup.Proofs.Text.Lines
import StudioLookup.Proofs.Text.Markers

set_option autoImplicit false

/-! # Markers on one line

Some markers may stand in a text all on one line, while anything may stand before the first of them
(`MarkedOnLine`). Since no marker holds a line feed, the ways in which they do so are the ways in
which they stand in the single lines (`markedOnLine_iff`). So the way with the shortest texts before
the markers is found without looking back: in the first line that has the markers in their order,
each of them at its first place (`firstLine_cases`).
-/

namespace StudioLookup.Text

/-- The markers stand in a text in their order, and all of them on one line: of the texts before
them, only the first may hold a line feed. -/
def MarkedOnLine (ms gs : List Text) (t : Text) : Prop :=
  Marked ms gs t ∧ ∀ g ∈ gs.tail, '\n' ∉ g

/-- The text from the first of some markers to the end of the last, with texts between them. -/
def stretch : Text → List Text → List Text → Text
  | m, m' :: ms, g :: gs => m ++ (g ++ stretch m' ms gs)
  | m, _, _ => m

variable {ms gs : List Text} {m g t : Text}

theorem marked_cons_iff_stretch :
    Marked (m :: ms) (g :: gs) t ↔
      gs.length = ms.length ∧ ∃ rest, t = g ++ (stretch m ms gs ++ rest) := by
  induction ms generalizing m g gs t with
  | nil =>
      rw [marked_cons_iff]
      constructor
      · rintro ⟨_, _, rest, hgs, rfl, hnil⟩
        obtain ⟨rfl, rfl⟩ := List.cons.inj hgs
        cases hnil
        exact ⟨rfl, rest, rfl⟩
      · rintro ⟨hlength, rest, rfl⟩
        obtain rfl := List.length_eq_zero_iff.mp hlength
        exact ⟨g, [], rest, rfl, rfl, .nil rest⟩
  | cons m' ms ih =>
      rw [marked_cons_iff]
      constructor
      · rintro ⟨_, _, rest, hgs, rfl, hmarked⟩
        obtain ⟨rfl, rfl⟩ := List.cons.inj hgs
        obtain ⟨g', gs', rest', rfl, -, -⟩ := marked_cons_iff.mp hmarked
        obtain ⟨hlength, rest', rfl⟩ := ih.mp hmarked
        refine ⟨by simp [hlength], rest', ?_⟩
        simp [stretch]
      · rintro ⟨hlength, rest, rfl⟩
        cases gs with
        | nil => cases hlength
        | cons g' gs =>
            refine ⟨g, g' :: gs, g' ++ (stretch m' ms gs ++ rest), rfl, by simp [stretch], ?_⟩
            exact ih.mpr ⟨Nat.succ.inj hlength, rest, rfl⟩

theorem mem_stretch_iff {c : Char} (h : gs.length = ms.length) :
    c ∈ stretch m ms gs ↔ (∃ m' ∈ m :: ms, c ∈ m') ∨ ∃ g ∈ gs, c ∈ g := by
  induction ms generalizing m gs with
  | nil =>
      obtain rfl := List.length_eq_zero_iff.mp h
      simp [stretch]
  | cons m' ms ih =>
      cases gs with
      | nil => cases h
      | cons g gs =>
          have hrest := ih (m := m') (Nat.succ.inj h)
          rw [stretch, List.mem_append, List.mem_append, hrest]
          simp only [List.mem_cons, exists_eq_or_imp, or_assoc, or_left_comm]

theorem stretch_ne_nil (hm : m ≠ []) : stretch m ms gs ≠ [] := by
  cases ms with
  | nil => exact hm
  | cons m' ms =>
      cases gs with
      | nil => exact hm
      | cons g gs =>
          rw [stretch]
          exact List.append_ne_nil_of_left_ne_nil hm _

/-! ## Line by line -/

/-- Markers that can be looked for line by line. -/
structure AreOfLines (ms : List Text) : Prop where
  ne_nil : ms ≠ []
  marker_ne_nil : ∀ m ∈ ms, m ≠ []
  not_lineFeed_mem : ∀ m ∈ ms, '\n' ∉ m

section

variable (hms : AreOfLines ms)

include hms

/-- Markers stand on one line of a text as they stand in the line. -/
theorem markedOnLine_iff :
    MarkedOnLine ms gs t ↔
      ∃ above line below g inner, pieces '\n' t = above ++ line :: below ∧
        gs = (unlines above ++ g) :: inner ∧ Marked ms (g :: inner) line := by
  obtain ⟨m, ms, rfl⟩ := List.exists_cons_of_ne_nil hms.ne_nil
  constructor
  · rintro ⟨hmarked, hinner⟩
    obtain ⟨gap, inner, -, rfl, -, -⟩ := marked_cons_iff.mp hmarked
    obtain ⟨hlength, rest, ht⟩ := marked_cons_iff_stretch.mp hmarked
    have hne : stretch m ms inner ≠ [] := stretch_ne_nil (hms.marker_ne_nil m List.mem_cons_self)
    have hfeed : '\n' ∉ stretch m ms inner := by
      rw [mem_stretch_iff hlength]
      rintro (⟨m', hm', hc⟩ | ⟨g, hg, hc⟩)
      · exact hms.not_lineFeed_mem m' hm' hc
      · exact hinner g hg hc
    -- from the first marker to the last there is no line feed, so all of it stands in one line
    have hlines : unlines (pieces '\n' t) = gap ++ (stretch m ms inner ++ (rest ++ ['\n'])) := by
      rw [unlines_pieces, ht, List.append_assoc, List.append_assoc]
    obtain ⟨above, a, b, below, hpieces, rfl, -⟩ := eq_lines_of_append hne hfeed hlines
    exact ⟨above, _, below, a, inner, hpieces, rfl,
      marked_cons_iff_stretch.mpr ⟨hlength, b, rfl⟩⟩
  · rintro ⟨above, line, below, g, inner, hpieces, rfl, hmarked⟩
    obtain ⟨hlength, b, rfl⟩ := marked_cons_iff_stretch.mp hmarked
    obtain ⟨rest, ht⟩ := exists_append_of_line hpieces
    have hfeed : '\n' ∉ g ++ (stretch m ms inner ++ b) :=
      not_mem_of_mem_pieces (by rw [hpieces]; simp)
    refine ⟨marked_cons_iff_stretch.mpr ⟨hlength, b ++ rest, by rw [ht]; simp⟩, fun g' hg' hc => ?_⟩
    have hstretch : '\n' ∈ stretch m ms inner :=
      (mem_stretch_iff hlength).mpr (Or.inr ⟨g', hg', hc⟩)
    exact hfeed (by simp [hstretch])

/-- Of all ways in which the markers stand on one line, the one that is found in the first line with
all of them has the shortest texts before the markers. -/
theorem isShortest_of_first_line {above below inner : List Text} {line : Text}
    (hpieces : pieces '\n' t = above ++ line :: below) (habove : ∀ l ∈ above, ¬ HoldsInOrder ms l)
    (hline : between? ms line = some (g :: inner)) :
    IsShortest (MarkedOnLine ms · t) ((unlines above ++ g) :: inner) := by
  obtain ⟨hmarked, hshortest⟩ := isShortest_of_between? hline
  refine ⟨(markedOnLine_iff hms).mpr ⟨above, line, below, g, inner, hpieces, rfl, hmarked⟩, ?_⟩
  intro gs' hgs'
  obtain ⟨above', line', below', g', inner', hpieces', rfl, hmarked'⟩ :=
    (markedOnLine_iff hms).mp hgs'
  -- the other way is in this line, further down, or further up, where there is none
  rcases append_cons_cases (hpieces.symm.trans hpieces') with
    ⟨rfl, rfl, -⟩ | ⟨between, rfl⟩ | ⟨between, rfl⟩
  · exact NoLonger.append_left (unlines above) (hshortest _ hmarked')
  · have hg : g.length ≤ line.length := hmarked.head_prefix.length_le
    refine Or.inl ?_
    rw [unlines_append, unlines_cons]
    simp only [List.length_append, List.length_cons]
    omega
  · exact absurd ⟨_, hmarked'⟩ (habove _ (by simp))

/-- No line of a text has the markers in their order, and they nowhere stand on one line, or the way
with the shortest texts before them is found in the first line that has them. -/
theorem firstLine_cases (t : Text) :
    ((∀ l ∈ pieces '\n' t, ¬ HoldsInOrder ms l) ∧ ∀ gs, ¬ MarkedOnLine ms gs t) ∨
      ∃ above line below g inner, pieces '\n' t = above ++ line :: below ∧
        (∀ l ∈ above, ¬ HoldsInOrder ms l) ∧ between? ms line = some (g :: inner) ∧
        IsShortest (MarkedOnLine ms · t) ((unlines above ++ g) :: inner) := by
  cases hfind : (pieces '\n' t).find? (HoldsInOrder ms ·) with
  | none =>
      have hnone : ∀ l ∈ pieces '\n' t, ¬ HoldsInOrder ms l := by
        simpa using List.find?_eq_none.mp hfind
      refine Or.inl ⟨hnone, fun gs hgs => ?_⟩
      obtain ⟨_, line, _, _, _, hpieces, -, hmarked⟩ := (markedOnLine_iff hms).mp hgs
      exact hnone line (by rw [hpieces]; simp) ⟨_, hmarked⟩
  | some line =>
      obtain ⟨hholds, above, below, hpieces, habove⟩ := List.find?_eq_some_iff_append.mp hfind
      have habove' : ∀ l ∈ above, ¬ HoldsInOrder ms l := by simpa using habove
      cases hline : between? ms line with
      | none => exact absurd (of_decide_eq_true hholds) (between?_eq_none_iff.mp hline)
      | some gs =>
          have hlength := (isShortest_of_between? hline).1.length_eq
          obtain ⟨g, inner, rfl⟩ : ∃ g inner, gs = g :: inner := by
            refine List.exists_cons_of_ne_nil fun hnil => hms.ne_nil ?_
            rw [hnil] at hlength
            exact List.length_eq_zero_iff.mp hlength.symm
          exact Or.inr ⟨above, line, below, g, inner, hpieces, habove', hline,
            isShortest_of_first_line hms hpieces habove' hline⟩

end

end StudioLookup.Text
