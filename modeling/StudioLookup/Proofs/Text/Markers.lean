import StudioLookup.Proofs.Pattern.Placement
import StudioLookup.Proofs.Text.Occurrences

set_option autoImplicit false

/-! # What stands between markers

Some markers may stand in a text in their order, and in many ways (`Marked`). Taking each of them at
its first place behind the one before is one way, and never a wrong one: if the markers stand in the
text in any way, they are found in this one (`between?_eq_none_iff`), and of all the ways it is the
one with the shortest texts before the markers (`isShortest_of_between?`). The reason is that what
stands behind a later place of a marker stands behind its first place as well.
-/

namespace StudioLookup.Text

/-- The markers stand in a text in their order and without overlap; `gs` is what stands before each
of them, behind the one before. -/
inductive Marked : List Text → List Text → Text → Prop where
  | nil (t : Text) : Marked [] [] t
  | cons (m g : Text) {ms gs : List Text} {t : Text} :
      Marked ms gs t → Marked (m :: ms) (g :: gs) (g ++ (m ++ t))

/-- A text has the markers in their order and without overlap. -/
def HoldsInOrder (ms : List Text) (t : Text) : Prop := ∃ gs, Marked ms gs t

/-- What stands before each of the markers, when each is taken at its first place behind the one
before. -/
def between? : List Text → Text → Option (List Text)
  | [], _ => some []
  | m :: ms, t =>
      match splitAt? m t with
      | some (g, rest) => (between? ms rest).map (g :: ·)
      | none => none

variable {ms gs : List Text} {m t : Text}

theorem marked_cons_iff : Marked (m :: ms) gs t ↔
    ∃ g gs' rest, gs = g :: gs' ∧ t = g ++ (m ++ rest) ∧ Marked ms gs' rest := by
  constructor
  · intro h
    cases h with | cons _ g h => exact ⟨g, _, _, rfl, rfl, h⟩
  · rintro ⟨g, gs', rest, rfl, rfl, h⟩
    exact .cons m g h

/-- The first marker is taken at its first place, and the others behind it in the same way. -/
theorem between?_cons_eq_some_iff : between? (m :: ms) t = some gs ↔
    ∃ g gs' rest, gs = g :: gs' ∧ FirstAt m t g rest ∧ between? ms rest = some gs' := by
  rw [between?]
  constructor
  · intro h
    cases hsplit : splitAt? m t with
    | none =>
        rw [hsplit] at h
        cases h
    | some parts =>
        rw [hsplit] at h
        obtain ⟨gs', hrest, rfl⟩ := Option.map_eq_some_iff.mp h
        exact ⟨_, gs', _, rfl, splitAt?_eq_some_iff.mp hsplit, hrest⟩
  · rintro ⟨g, gs', rest, rfl, hfirst, hrest⟩
    rw [splitAt?_eq_some_iff.mpr hfirst]
    simp only [hrest, Option.map_some]

theorem Marked.length_eq (h : Marked ms gs t) : gs.length = ms.length := by
  induction h with
  | nil t => rfl
  | cons m g _ ih => rw [List.length_cons, List.length_cons, ih]

theorem Marked.head_prefix {g : Text} (h : Marked ms (g :: gs) t) : g <+: t := by
  cases h with | cons m g h => exact ⟨_, rfl⟩

/-- Markers that stand at the end of a text stand in the text. -/
theorem Marked.holdsInOrder {v : Text} (h : Marked ms gs v) (hv : v <:+ t) : HoldsInOrder ms t := by
  obtain ⟨u, rfl⟩ := hv
  cases h with
  | nil => exact ⟨[], .nil _⟩
  | cons m g h =>
      rw [← List.append_assoc]
      exact ⟨_, .cons m (u ++ g) h⟩

/-- Behind the first place of a marker stands all that stands behind any of its places. -/
theorem FirstAt.holdsInOrder {g rest : Text} (h : FirstAt m t g rest)
    (hall : HoldsInOrder (m :: ms) t) : HoldsInOrder ms rest := by
  obtain ⟨_, hmarked⟩ := hall
  obtain ⟨g', gs', rest', -, ht, hmarked⟩ := marked_cons_iff.mp hmarked
  exact hmarked.holdsInOrder (h.suffix ht)

theorem between?_eq_none_iff : between? ms t = none ↔ ¬ HoldsInOrder ms t := by
  induction ms generalizing t with
  | nil => exact ⟨fun h => (by cases h), fun h => absurd ⟨[], .nil t⟩ h⟩
  | cons m ms ih =>
      rw [between?]
      cases hsplit : splitAt? m t with
      | none =>
          refine ⟨fun _ => ?_, fun _ => rfl⟩
          rintro ⟨gs, hmarked⟩
          obtain ⟨g, -, rest, -, ht, -⟩ := marked_cons_iff.mp hmarked
          exact splitAt?_eq_none_iff.mp hsplit ⟨g, rest, by rw [ht, List.append_assoc]⟩
      | some parts =>
          have hfirst := splitAt?_eq_some_iff.mp hsplit
          rw [Option.map_eq_none_iff, ih]
          refine not_congr ⟨?_, hfirst.holdsInOrder⟩
          rintro ⟨gs, hmarked⟩
          exact ⟨parts.1 :: gs, hfirst.1 ▸ .cons m parts.1 hmarked⟩

/-- Taking each marker at its first place makes the texts before them the shortest. -/
theorem isShortest_of_between? (h : between? ms t = some gs) : IsShortest (Marked ms · t) gs := by
  induction ms generalizing t gs with
  | nil =>
      cases h
      exact ⟨.nil t, fun _ _ => trivial⟩
  | cons m ms ih =>
      obtain ⟨g, gs, rest, rfl, ⟨ht, hleast⟩, hrest⟩ := between?_cons_eq_some_iff.mp h
      obtain ⟨hmarked, hshortest⟩ := ih hrest
      refine ⟨ht ▸ .cons m g hmarked, fun gs' hmarked' => ?_⟩
      obtain ⟨g', gs', rest', rfl, ht', hmarked'⟩ := marked_cons_iff.mp hmarked'
      rcases Nat.lt_or_eq_of_le (hleast g' rest' ht') with hlt | heq
      · exact Or.inl hlt
      · -- at the same place, what stands behind the marker is the same
        obtain ⟨rfl, hbehind⟩ := List.append_inj (ht.symm.trans ht') heq
        obtain rfl := List.append_cancel_left hbehind
        exact Or.inr ⟨rfl, hshortest gs' hmarked'⟩

/-- What is added behind a text does not change what stands before the markers in it. -/
theorem between?_append (h : between? ms t = some gs) (u : Text) :
    between? ms (t ++ u) = some gs := by
  induction ms generalizing t gs with
  | nil => exact h
  | cons m ms ih =>
      obtain ⟨g, gs, rest, rfl, hfirst, hrest⟩ := between?_cons_eq_some_iff.mp h
      exact between?_cons_eq_some_iff.mpr ⟨g, gs, rest ++ u, rfl, hfirst.append u, ih hrest⟩

/-! ## Markers that do not overlap with themselves -/

/-- The first character of a text does not come again in it. -/
def StartsOnce (m : Text) : Prop := ∃ c m', m = c :: m' ∧ c ∉ m'

theorem StartsOnce.firstAt_iff (h : StartsOnce m) {g rest : Text} :
    FirstAt m (g ++ (m ++ rest)) g rest ↔ ¬ m <:+: g := by
  obtain ⟨c, m, rfl, hc⟩ := h
  exact firstAt_append_iff hc

/-- **What is found between markers.** If the markers do not overlap with themselves, the texts that
are found before them are those in which none of them holds the marker behind it. -/
theorem between?_eq_some_iff (hms : ∀ m ∈ ms, StartsOnce m) :
    between? ms t = some gs ↔
      Marked ms gs t ∧ List.Forall₂ (fun m g => ¬ m <:+: g) ms gs := by
  induction ms generalizing t gs with
  | nil =>
      constructor
      · intro h
        cases h
        exact ⟨.nil t, .nil⟩
      · rintro ⟨-, hnil⟩
        cases hnil
        rfl
  | cons m ms ih =>
      have hm : StartsOnce m := hms m List.mem_cons_self
      have hrest : ∀ m' ∈ ms, StartsOnce m' := fun m' hm' => hms m' (List.mem_cons_of_mem m hm')
      rw [between?_cons_eq_some_iff]
      constructor
      · rintro ⟨g, gs, rest, rfl, hfirst, hgs⟩
        obtain rfl := hfirst.1
        obtain ⟨hmarked, hnone⟩ := (ih hrest).mp hgs
        exact ⟨.cons m g hmarked, .cons (hm.firstAt_iff.mp hfirst) hnone⟩
      · rintro ⟨hmarked, hnone⟩
        obtain ⟨g, gs, rest, rfl, rfl, htail⟩ := marked_cons_iff.mp hmarked
        obtain ⟨hg, hgs⟩ := List.forall₂_cons.mp hnone
        exact ⟨g, gs, rest, rfl, hm.firstAt_iff.mpr hg, (ih hrest).mpr ⟨htail, hgs⟩⟩

instance (ms : List Text) (t : Text) : Decidable (HoldsInOrder ms t) :=
  decidable_of_iff ((between? ms t).isSome = true) <| by
    rw [Option.isSome_iff_ne_none, ne_eq, between?_eq_none_iff, not_not]

end StudioLookup.Text
