import Mathlib.Data.List.Basic
import Mathlib.Data.List.Infix
import StudioLookup.Text.Basic

set_option autoImplicit false

/-! # The first occurrence of a text in a text

`FirstAt` says where a text first stands in another, and `splitAt?_eq_some_iff` and
`splitAt?_eq_none_iff` that this is what the search `Text.splitAt?` finds. What stands behind any
occurrence stands behind the first one as well (`FirstAt.suffix`), so a search for one text after
the other may always go on from the first occurrence.
-/

namespace StudioLookup.Text

/-- A text is `before`, then `pat`, then `after`, and `pat` does not stand earlier in it. -/
def FirstAt (pat t before after : Text) : Prop :=
  t = before ++ (pat ++ after) ∧ ∀ u v, t = u ++ (pat ++ v) → before.length ≤ u.length

variable {pat t before after : Text}

theorem FirstAt.infix (h : FirstAt pat t before after) : pat <:+: t :=
  ⟨before, after, by rw [h.1, List.append_assoc]⟩

theorem firstAt_append (pat after : Text) : FirstAt pat (pat ++ after) [] after :=
  ⟨rfl, fun _ _ _ => Nat.zero_le _⟩

/-- A text that does not stand at the beginning first stands where it does in the tail. -/
theorem FirstAt.cons {c : Char} (h : FirstAt pat t before after) (hc : ¬ pat <+: c :: t) :
    FirstAt pat (c :: t) (c :: before) after := by
  obtain ⟨rfl, hleast⟩ := h
  refine ⟨rfl, fun u v huv => ?_⟩
  cases u with
  | nil => exact absurd ⟨v, huv.symm⟩ hc
  | cons d u =>
      have hle : before.length ≤ u.length := hleast u v (List.cons.inj huv).2
      simpa using hle

theorem FirstAt.unique {before' after' : Text} (h : FirstAt pat t before after)
    (h' : FirstAt pat t before' after') : before = before' ∧ after = after' := by
  have hlength : before.length = before'.length :=
    Nat.le_antisymm (h.2 _ _ h'.1) (h'.2 _ _ h.1)
  obtain ⟨hbefore, hrest⟩ := List.append_inj (h.1.symm.trans h'.1) hlength
  exact ⟨hbefore, List.append_cancel_left hrest⟩

/-- What stands behind an occurrence stands behind the first. -/
theorem FirstAt.suffix (h : FirstAt pat t before after) {u v : Text} (huv : t = u ++ (pat ++ v)) :
    v <:+ after := by
  have hle : before.length ≤ u.length := h.2 u v huv
  have hafter : after = t.drop (before.length + pat.length) := by
    rw [h.1, ← List.drop_drop, List.drop_left, List.drop_left]
  have hv : v = t.drop (u.length + pat.length) := by
    rw [huv, ← List.drop_drop, List.drop_left, List.drop_left]
  rw [hafter, hv]
  exact List.drop_suffix_drop_left t (Nat.add_le_add_right hle _)

/-- What stands behind the first occurrence does not count: in its place may stand anything. -/
theorem FirstAt.of_before (h : FirstAt pat t before after) (after' : Text) :
    FirstAt pat (before ++ (pat ++ after')) before after' := by
  obtain ⟨rfl, hleast⟩ := h
  refine ⟨rfl, fun v w hvw => ?_⟩
  by_contra hlt
  -- an earlier occurrence would end before the first one does, and so stand in both texts
  have hends : (v ++ pat).length ≤ (before ++ pat).length := by
    simp only [List.length_append]
    omega
  have hprefix : v ++ pat <+: before ++ pat ++ after' :=
    ⟨w, by rw [List.append_assoc, List.append_assoc, hvw]⟩
  obtain ⟨w', hw'⟩ :=
    List.prefix_of_prefix_length_le hprefix (List.prefix_append (before ++ pat) after') hends
  have hle : before.length ≤ v.length := by
    refine hleast v (w' ++ after) ?_
    rw [← List.append_assoc, ← hw', List.append_assoc, List.append_assoc]
  exact hlt hle

/-- What is added behind a text does not move the first occurrence in it. -/
theorem FirstAt.append (h : FirstAt pat t before after) (u : Text) :
    FirstAt pat (t ++ u) before (after ++ u) := by
  have hfirst := h.of_before (after ++ u)
  rwa [← List.append_assoc, ← List.append_assoc, List.append_assoc before, ← h.1] at hfirst

/-- If the first character of a text does not come again in it, the text cannot overlap with itself,
and is found behind all texts in which it does not stand. -/
theorem firstAt_append_iff {c : Char} (hc : c ∉ pat) :
    FirstAt (c :: pat) (before ++ (c :: pat ++ after)) before after ↔ ¬ c :: pat <:+: before := by
  constructor
  · rintro ⟨-, hleast⟩ ⟨u, v, rfl⟩
    have hle := hleast u (v ++ (c :: pat ++ after)) (by simp)
    simp only [List.length_append, List.length_cons] at hle
    omega
  · intro hbefore
    refine ⟨rfl, fun u v huv => ?_⟩
    rcases List.append_eq_append_iff.mp huv with ⟨m, rfl, -⟩ | ⟨m, rfl, hm⟩
    · rw [List.length_append]
      exact Nat.le_add_right _ _
    · -- an occurrence that begins with `m` would lie in `m`, or `c` would come again in it
      cases m with
      | nil => simp
      | cons d m =>
          obtain ⟨rfl, hrest⟩ := List.cons.inj hm
          rcases List.append_eq_append_iff.mp hrest with ⟨w, hmw, -⟩ | ⟨w, hpat, hw⟩
          · exact absurd ⟨u, w, by simp [hmw]⟩ hbefore
          · cases w with
            | nil => exact absurd ⟨u, [], by simp [hpat]⟩ hbefore
            | cons e w =>
                have he : c = e := (List.cons.inj hw).1
                exact absurd (by simp [hpat, he]) hc

theorem firstAt_singleton_iff {c : Char} :
    FirstAt [c] t before after ↔ t = before ++ c :: after ∧ c ∉ before := by
  have hiff : FirstAt [c] (before ++ ([c] ++ after)) before after ↔ ¬ [c] <:+: before :=
    firstAt_append_iff List.not_mem_nil
  rw [List.singleton_infix_iff] at hiff
  constructor
  · intro h
    obtain rfl := h.1
    exact ⟨rfl, hiff.mp h⟩
  · rintro ⟨rfl, hc⟩
    exact hiff.mpr hc

theorem not_infix_cons {c : Char} (ht : ¬ pat <:+: t) (hc : ¬ pat <+: c :: t) :
    ¬ pat <:+: c :: t := by
  rw [List.infix_cons_iff, not_or]
  exact ⟨hc, ht⟩

/-! ## The search -/

/-- A text is found if and only if it occurs, and then at its first place. -/
theorem splitAt?_spec (pat t : Text) :
    (splitAt? pat t = none ∧ ¬ pat <:+: t) ∨
      ∃ before after, splitAt? pat t = some (before, after) ∧ FirstAt pat t before after := by
  induction t with
  | nil =>
      cases pat with
      | nil => exact Or.inr ⟨[], [], rfl, firstAt_append [] []⟩
      | cons c pat => exact Or.inl ⟨rfl, by simp⟩
  | cons c t ih =>
      rw [splitAt?]
      cases hpre : pat.isPrefixOf? (c :: t) with
      | some rest =>
          -- no place is before the start of the text
          rw [← List.isPrefixOf?_eq_some_iff_append_eq.mp hpre]
          exact Or.inr ⟨[], rest, rfl, firstAt_append pat rest⟩
      | none =>
          have hc : ¬ pat <+: c :: t := by
            rintro ⟨rest, hrest⟩
            rw [List.isPrefixOf?_eq_some_iff_append_eq.mpr hrest] at hpre
            cases hpre
          rcases ih with ⟨hnone, ht⟩ | ⟨before, after, hsome, hfirst⟩
          · rw [hnone]
            exact Or.inl ⟨rfl, not_infix_cons ht hc⟩
          · rw [hsome]
            exact Or.inr ⟨c :: before, after, rfl, hfirst.cons hc⟩

theorem splitAt?_eq_none_iff : splitAt? pat t = none ↔ ¬ pat <:+: t := by
  rcases splitAt?_spec pat t with ⟨hnone, ht⟩ | ⟨before, after, hsome, hfirst⟩
  · exact ⟨fun _ => ht, fun _ => hnone⟩
  · rw [hsome]
    exact ⟨fun h => (by cases h), fun h => absurd hfirst.infix h⟩

theorem splitAt?_eq_some_iff :
    splitAt? pat t = some (before, after) ↔ FirstAt pat t before after := by
  rcases splitAt?_spec pat t with ⟨hnone, ht⟩ | ⟨b, a, hsome, hfirst⟩
  · rw [hnone]
    exact ⟨fun h => (by cases h), fun h => absurd h.infix ht⟩
  · rw [hsome]
    constructor
    · intro h
      cases h
      exact hfirst
    · intro h
      obtain ⟨rfl, rfl⟩ := hfirst.unique h
      rfl

end StudioLookup.Text
