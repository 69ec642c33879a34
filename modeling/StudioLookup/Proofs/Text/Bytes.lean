import Mathlib.Data.List.Basic
import StudioLookup.Text.Basic

set_option autoImplicit false

/-! # Cutting a text at a byte

A text can be cut after a number of its bytes if it has as many and the place is not inside a
character: `cutAtByte?_eq_some_iff` says that this is when `cutAtByte?` succeeds. In a text of
ASCII characters each character is one byte, so every place is the end of a character and cutting at
bytes is cutting at characters (`cutBeforeLast?_of_isAscii`).
-/

namespace StudioLookup.Text

/-- The characters of a text are all in ASCII. -/
def IsAscii (t : Text) : Prop := ∀ c ∈ t, c.toNat < 128

theorem isAscii_iff {t : Text} : t.all (·.toNat < 128) = true ↔ IsAscii t := by
  simp [IsAscii, List.all_eq_true]

theorem isAscii_append_iff {t u : Text} : IsAscii (t ++ u) ↔ IsAscii t ∧ IsAscii u := by
  simp only [IsAscii, List.mem_append]
  exact ⟨fun h => ⟨fun c hc => h c (Or.inl hc), fun c hc => h c (Or.inr hc)⟩,
    fun ⟨ht, hu⟩ c hc => hc.elim (ht c) (hu c)⟩

theorem isAscii_cons_iff {c : Char} {t : Text} : IsAscii (c :: t) ↔ c.toNat < 128 ∧ IsAscii t :=
  List.forall_mem_cons

/-- The parts of a text before and behind the given number of bytes; nothing if the text has fewer
bytes, or if the place is inside a character. -/
def cutAtByte? : Nat → Text → Option (Text × Text)
  | 0, t => some ([], t)
  | _ + 1, [] => none
  | n + 1, c :: t =>
      if c.utf8Size ≤ n + 1 then
        (cutAtByte? (n + 1 - c.utf8Size) t).map fun (before, after) => (c :: before, after)
      else none

/-- The parts of a text before and in its last `n` bytes. -/
def cutBeforeLast? (n : Nat) (t : Text) : Option (Text × Text) :=
  if n ≤ byteCount t then cutAtByte? (byteCount t - n) t else none

theorem byteCount_cons (c : Char) (t : Text) :
    byteCount (c :: t) = c.utf8Size + byteCount t := rfl

theorem eq_nil_of_byteCount_eq_zero {t : Text} (h : byteCount t = 0) : t = [] := by
  cases t with
  | nil => rfl
  | cons c t =>
      have hpos : 0 < c.utf8Size := c.utf8Size_pos
      rw [byteCount_cons] at h
      omega

theorem cutAtByte?_eq_some_iff {n : Nat} {t before after : Text} :
    cutAtByte? n t = some (before, after) ↔ t = before ++ after ∧ byteCount before = n := by
  induction t generalizing n before with
  | nil =>
      cases n with
      | zero =>
          rw [cutAtByte?]
          constructor
          · intro h
            cases h
            exact ⟨rfl, rfl⟩
          · rintro ⟨h, -⟩
            obtain ⟨rfl, rfl⟩ := List.append_eq_nil_iff.mp h.symm
            rfl
      | succ n =>
          rw [cutAtByte?]
          refine ⟨fun h => (by cases h), fun ⟨h, hn⟩ => ?_⟩
          rw [(List.append_eq_nil_iff.mp h.symm).1] at hn
          cases hn
  | cons c t ih =>
      have hpos : 0 < c.utf8Size := c.utf8Size_pos
      cases n with
      | zero =>
          rw [cutAtByte?]
          constructor
          · intro h
            cases h
            exact ⟨rfl, rfl⟩
          · -- only the empty text has no bytes
            rintro ⟨h, hn⟩
            rw [eq_nil_of_byteCount_eq_zero hn] at h ⊢
            rw [h, List.nil_append]
      | succ n =>
          rw [cutAtByte?]
          constructor
          · intro h
            by_cases hc : c.utf8Size ≤ n + 1
            · rw [if_pos hc, Option.map_eq_some_iff] at h
              obtain ⟨⟨b, a⟩, hcut, heq⟩ := h
              obtain ⟨rfl, rfl⟩ := Prod.mk.inj heq
              obtain ⟨rfl, hb⟩ := ih.mp hcut
              exact ⟨rfl, by rw [byteCount_cons, hb]; omega⟩
            · rw [if_neg hc] at h
              cases h
          · rintro ⟨h, hn⟩
            cases before with
            | nil => cases hn
            | cons d before =>
                obtain ⟨rfl, ht⟩ := List.cons.inj h
                rw [byteCount_cons] at hn
                have hcut : cutAtByte? (n + 1 - c.utf8Size) t = some (before, after) :=
                  ih.mpr ⟨ht, by omega⟩
                rw [if_pos (by omega), hcut]
                rfl

/-! ## Texts in ASCII -/

theorem utf8Size_of_lt {c : Char} (h : c.toNat < 128) : c.utf8Size = 1 := by
  rw [Char.utf8Size_eq_one_iff, UInt32.le_iff_toNat_le]
  exact Nat.le_of_lt_succ h

theorem byteCount_of_isAscii {t : Text} (h : IsAscii t) : byteCount t = t.length := by
  induction t with
  | nil => rfl
  | cons c t ih =>
      have hc : c.utf8Size = 1 := utf8Size_of_lt (h c List.mem_cons_self)
      have ht : byteCount t = t.length := ih fun d hd => h d (List.mem_cons_of_mem c hd)
      rw [byteCount_cons, hc, ht, List.length_cons, Nat.add_comm]

/-- In ASCII the last bytes are the last characters. -/
theorem cutBeforeLast?_of_isAscii {t : Text} (h : IsAscii t) {n : Nat} (hn : n ≤ t.length) :
    cutBeforeLast? n t = some (t.take (t.length - n), t.drop (t.length - n)) := by
  have htake : IsAscii (t.take (t.length - n)) := fun c hc => h c (List.mem_of_mem_take hc)
  rw [cutBeforeLast?, byteCount_of_isAscii h, if_pos hn, cutAtByte?_eq_some_iff]
  refine ⟨(List.take_append_drop _ t).symm, ?_⟩
  rw [byteCount_of_isAscii htake, List.length_take]
  omega

end StudioLookup.Text
