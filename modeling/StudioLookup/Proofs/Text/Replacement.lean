import StudioLookup.Proofs.Text.Occurrences

set_option autoImplicit false

/-! # Replacing texts in a text

What a replacement puts together comes from the text and from what is put in: no other
characters appear.

`Replaced` says what replacing is without saying how it is done: where the pattern first stands,
the new text is put in, and the rest behind that place is treated in the same way.
`replaceAll_eq_iff` says that `Text.replaceAll` does this. Facts about replacements are proved along
the text (`replace_induction`): at each place either the pattern stands there, and is passed as a
whole, or one character is passed.
-/

namespace StudioLookup.Text

theorem mem_replaceFrom {pat new t : Text} {skip : Nat} {c : Char}
    (h : c ∈ replaceFrom pat new skip t) : c ∈ t ∨ c ∈ new := by
  induction t generalizing skip with
  | nil =>
      rw [replaceFrom] at h
      exact absurd h (by simp)
  | cons d t ih =>
      cases skip with
      | succ skip =>
          rw [replaceFrom] at h
          exact (ih h).imp_left (List.mem_cons_of_mem d)
      | zero =>
          rw [replaceFrom] at h
          by_cases hp : pat.isPrefixOf (d :: t) = true
          · rw [if_pos hp] at h
            rcases List.mem_append.mp h with h | h
            · exact Or.inr h
            · exact (ih h).imp_left (List.mem_cons_of_mem d)
          · rw [if_neg hp] at h
            rcases List.mem_cons.mp h with rfl | h
            · exact Or.inl (by simp)
            · exact (ih h).imp_left (List.mem_cons_of_mem d)

theorem mem_replaceAll {pat new t : Text} {c : Char} (h : c ∈ replaceAll pat new t) :
    c ∈ t ∨ c ∈ new :=
  mem_replaceFrom h

/-! ## Along the text -/

section

variable {pat : Text} (new : Text)

theorem replaceFrom_eq_drop (pat new : Text) (skip : Nat) (t : Text) :
    replaceFrom pat new skip t = replaceAll pat new (t.drop skip) := by
  induction t generalizing skip with
  | nil => rw [List.drop_nil, replaceAll, replaceFrom, replaceFrom]
  | cons c t ih =>
      cases skip with
      | zero => rfl
      | succ skip => rw [replaceFrom, ih, List.drop_succ_cons]

/-- Where the pattern stands, it is passed as a whole and the new text put in. -/
theorem replaceAll_append (hpat : pat ≠ []) (t : Text) :
    replaceAll pat new (pat ++ t) = new ++ replaceAll pat new t := by
  cases pat with
  | nil => exact absurd rfl hpat
  | cons c pat =>
      have hpre : (c :: pat).isPrefixOf (c :: (pat ++ t)) = true :=
        List.isPrefixOf_iff_prefix.mpr ⟨t, rfl⟩
      rw [List.cons_append, replaceAll, replaceFrom, if_pos hpre, replaceFrom_eq_drop,
        List.length_cons, Nat.add_sub_cancel, List.drop_left]

/-- Where it does not stand, a character is passed. -/
theorem replaceAll_cons {c : Char} {t : Text} (h : ¬ pat <+: c :: t) :
    replaceAll pat new (c :: t) = c :: replaceAll pat new t := by
  have hpre : ¬ pat.isPrefixOf (c :: t) = true := fun hpre => h (List.isPrefixOf_iff_prefix.mp hpre)
  rw [replaceAll, replaceFrom, if_neg hpre, replaceAll]

/-- The induction along a text that is searched for a pattern from left to right and without
overlap. -/
theorem replace_induction (hpat : pat ≠ []) {P : Text → Prop} (nil : P [])
    (found : ∀ t, P t → P (pat ++ t)) (passed : ∀ c t, ¬ pat <+: c :: t → P t → P (c :: t)) :
    ∀ t, P t := by
  intro t
  -- on the length, since passing the pattern takes more than one character at a time
  induction hn : t.length using Nat.strongRecOn generalizing t with
  | _ n ih =>
      by_cases hpre : pat <+: t
      · obtain ⟨t, rfl⟩ := hpre
        have hpos : 0 < pat.length := List.length_pos_iff.mpr hpat
        have hlt : t.length < n := by
          rw [← hn, List.length_append]
          omega
        exact found t (ih t.length hlt t rfl)
      · cases t with
        | nil => exact nil
        | cons c t =>
            have hlt : t.length < n := by
              rw [← hn]
              exact Nat.lt_succ_self _
            exact passed c t hpre (ih t.length hlt t rfl)

/-- What does not hold the pattern stays as it is. -/
theorem replaceAll_of_not_infix {t : Text} (h : ¬ pat <:+: t) : replaceAll pat new t = t := by
  induction t with
  | nil => rfl
  | cons c t ih =>
      rw [List.infix_cons_iff, not_or] at h
      rw [replaceAll_cons new h.1, ih h.2]

/-- A pattern does not reach over a character that it does not have. -/
theorem prefix_of_prefix_append_cons {x : Char} (hx : x ∉ pat) {t u : Text}
    (h : pat <+: t ++ x :: u) : pat <+: t := by
  obtain ⟨v, hv⟩ := h
  rcases List.append_eq_append_iff.mp hv with ⟨m, ht, -⟩ | ⟨m, hpat, hm⟩
  · exact ⟨m, ht.symm⟩
  · cases m with
    | nil => exact ⟨[], by rw [hpat, List.append_nil, List.append_nil]⟩
    | cons y m =>
        -- the pattern would reach over `x`
        obtain ⟨rfl, -⟩ := List.cons.inj hm
        exact absurd (by rw [hpat]; simp) hx

/-- A character that the pattern does not have separates two replacements. -/
theorem replaceAll_append_cons (hpat : pat ≠ []) {x : Char} (hx : x ∉ pat) (t u : Text) :
    replaceAll pat new (t ++ x :: u) = replaceAll pat new t ++ replaceAll pat new (x :: u) := by
  induction t using replace_induction hpat with
  | nil => rfl
  | found t ih =>
      rw [List.append_assoc, replaceAll_append new hpat, ih, replaceAll_append new hpat,
        List.append_assoc]
  | passed c t hc ih =>
      have hlonger : ¬ pat <+: c :: (t ++ x :: u) := fun hpre =>
        hc (prefix_of_prefix_append_cons hx (t := c :: t) hpre)
      rw [List.cons_append, replaceAll_cons new hlonger, ih, replaceAll_cons new hc,
        List.cons_append]

/-- Characters that the pattern does not have are left alone. -/
theorem replaceAll_append_of_not_mem (hpat : pat ≠ []) {u : Text} (hu : ∀ x ∈ u, x ∉ pat)
    (t : Text) : replaceAll pat new (t ++ u) = replaceAll pat new t ++ u := by
  cases u with
  | nil => rw [List.append_nil, List.append_nil]
  | cons x u =>
      have hinfix : ¬ pat <:+: x :: u := by
        cases pat with
        | nil => exact absurd rfl hpat
        | cons c pat => exact fun h => hu c (h.subset List.mem_cons_self) List.mem_cons_self
      rw [replaceAll_append_cons new hpat (hu x List.mem_cons_self),
        replaceAll_of_not_infix new hinfix]

/-- What the pattern and the new text agree on is kept at every place. -/
theorem map_replaceAll {β : Type} {f : Char → β} (hpat : pat ≠ []) (hnew : new.map f = pat.map f)
    (t : Text) : (replaceAll pat new t).map f = t.map f := by
  induction t using replace_induction hpat with
  | nil => rfl
  | found t ih => rw [replaceAll_append new hpat, List.map_append, ih, hnew, List.map_append]
  | passed c t hc ih => rw [replaceAll_cons new hc, List.map_cons, ih, List.map_cons]

/-! ## What replacing is -/

/-- `u` is `t` with each occurrence of the pattern replaced by the new text, from left to right and
without overlap. -/
inductive Replaced (pat new : Text) : Text → Text → Prop where
  | done {t : Text} : ¬ pat <:+: t → Replaced pat new t t
  | next {t before after u : Text} :
      FirstAt pat t before after → Replaced pat new after u →
      Replaced pat new t (before ++ (new ++ u))

theorem Replaced.unique {t u u' : Text} (h : Replaced pat new t u) (h' : Replaced pat new t u') :
    u = u' := by
  induction h generalizing u' with
  | done ht =>
      cases h' with
      | done _ => rfl
      | next hfirst _ => exact absurd hfirst.infix ht
  | next hfirst _ ih =>
      cases h' with
      | done ht => exact absurd hfirst.infix ht
      | next hfirst' hrest' =>
          obtain ⟨rfl, rfl⟩ := hfirst.unique hfirst'
          rw [ih hrest']

theorem replaced_replaceAll (hpat : pat ≠ []) (t : Text) :
    Replaced pat new t (replaceAll pat new t) := by
  induction t using replace_induction hpat with
  | nil =>
      refine .done fun h => hpat ?_
      exact List.infix_nil.mp h
  | found t ih =>
      rw [replaceAll_append new hpat]
      exact .next (firstAt_append pat t) ih
  | passed c t hc ih =>
      rw [replaceAll_cons new hc]
      -- the first occurrence is that in the rest of the text, if there is one
      generalize replaceAll pat new t = u at ih
      cases ih with
      | done ht => exact .done (not_infix_cons ht hc)
      | next hfirst hrest => exact .next (hfirst.cons hc) hrest

theorem replaceAll_eq_iff (hpat : pat ≠ []) {t u : Text} :
    replaceAll pat new t = u ↔ Replaced pat new t u := by
  constructor
  · rintro rfl
    exact replaced_replaceAll new hpat t
  · exact (replaced_replaceAll new hpat t).unique new

end

end StudioLookup.Text
