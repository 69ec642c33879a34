import StudioLookup.Text.Basic

set_option autoImplicit false

/-! # Cutting a text at a separator

`Text.pieces` and `Text.join` are inverse to each other as long as no piece holds the separator
(`join_pieces`, `pieces_join`), so a text written as pieces with separators between them
determines the pieces. Cutting distributes over the place of a separator
(`pieces_append_cons`), and the number of pieces is one more than the number of separators.

Where a list is cut at an element in two ways, the cuts are at one place or one of them is
further down (`append_cons_cases`). Where it is cut at an element and at a stretch without that
element, the stretch stands before or behind the element (`exists_of_append_cons_eq`).
-/

namespace StudioLookup.Text

/-- Two ways to cut a list at an element: at one place, the second further down, or the first. -/
theorem append_cons_cases {α : Type} {xs ys xs' ys' : List α} {x x' : α}
    (h : xs ++ x :: ys = xs' ++ x' :: ys') :
    (xs = xs' ∧ x = x' ∧ ys = ys') ∨ (∃ m, xs' = xs ++ x :: m) ∨ ∃ m, xs = xs' ++ x' :: m := by
  rcases List.append_eq_append_iff.mp h with ⟨m, hxs, hm⟩ | ⟨m, hxs, hm⟩
  · cases m with
    | nil =>
        rw [List.append_nil] at hxs
        exact Or.inl ⟨hxs.symm, List.cons.inj hm⟩
    | cons y m =>
        rw [← (List.cons.inj hm).1] at hxs
        exact Or.inr (Or.inl ⟨m, hxs⟩)
  · cases m with
    | nil =>
        rw [List.append_nil] at hxs
        exact Or.inl ⟨hxs, List.cons.inj hm.symm⟩
    | cons y m =>
        rw [← (List.cons.inj hm).1] at hxs
        exact Or.inr (Or.inr ⟨m, hxs⟩)

/-- Two ways to cut a list at the first place of an element are one. -/
theorem append_cons_inj_of_not_mem_left {α : Type} {xs ys xs' ys' : List α} {x : α} (hxs : x ∉ xs)
    (hxs' : x ∉ xs') (h : xs ++ x :: ys = xs' ++ x :: ys') : xs = xs' ∧ ys = ys' := by
  rcases append_cons_cases h with ⟨hsame, -, hrest⟩ | ⟨m, hlater⟩ | ⟨m, hearlier⟩
  · exact ⟨hsame, hrest⟩
  · exact absurd (by simp [hlater]) hxs'
  · exact absurd (by simp [hearlier]) hxs

/-- Two ways to cut a list at the last place of an element are one. -/
theorem append_cons_inj_of_not_mem_right {α : Type} {xs ys xs' ys' : List α} {x : α} (hys : x ∉ ys)
    (hys' : x ∉ ys') (h : xs ++ x :: ys = xs' ++ x :: ys') : xs = xs' ∧ ys = ys' := by
  rcases append_cons_cases h with ⟨hsame, -, hrest⟩ | ⟨m, rfl⟩ | ⟨m, rfl⟩
  · exact ⟨hsame, hrest⟩
  · have hbehind : ys = m ++ x :: ys' := by simpa using h
    exact absurd (by simp [hbehind]) hys
  · have hbehind : m ++ x :: ys = ys' := by simpa using h
    exact absurd (by simp [← hbehind]) hys'

/-- A stretch `p` that does not hold the element `x`, and does not stand before it, stands behind
it. -/
theorem exists_of_append_cons_eq {α : Type} {a b p u v : List α} {x : α} (hp : p ≠ [])
    (hx : x ∉ p) (ha : ¬ p <:+: a) (h : a ++ x :: b = u ++ (p ++ v)) :
    ∃ m, u = a ++ x :: m ∧ b = m ++ (p ++ v) := by
  rcases List.append_eq_append_iff.mp h with ⟨m, hu, hm⟩ | ⟨m, ha', hm⟩
  · cases m with
    | nil =>
        -- the stretch would begin with `x`
        cases p with
        | nil => exact absurd rfl hp
        | cons y p =>
            obtain ⟨rfl, -⟩ := List.cons.inj hm
            exact absurd List.mem_cons_self hx
    | cons y m =>
        obtain ⟨rfl, hb⟩ := List.cons.inj hm
        exact ⟨m, hu, hb⟩
  · rcases List.append_eq_append_iff.mp hm with ⟨w, hm', -⟩ | ⟨w, hp', hw⟩
    · -- it would stand before `x`
      exact absurd ⟨u, w, by rw [ha', hm', List.append_assoc]⟩ ha
    · cases w with
      | nil =>
          rw [List.append_nil] at hp'
          exact absurd ⟨u, [], by rw [ha', hp', List.append_nil]⟩ ha
      | cons y w =>
          obtain ⟨rfl, -⟩ := List.cons.inj hw
          exact absurd (by rw [hp']; simp) hx

/-- A stretch that does not hold `x` and stands on neither side of it does not stand in the whole. -/
theorem not_infix_append_cons {α : Type} {a b p : List α} {x : α} (hx : x ∉ p) (ha : ¬ p <:+: a)
    (hb : ¬ p <:+: b) : ¬ p <:+: a ++ x :: b := by
  rintro ⟨u, v, huv⟩
  have hp : p ≠ [] := by
    rintro rfl
    exact ha (List.nil_infix)
  rw [List.append_assoc] at huv
  obtain ⟨m, -, hm⟩ := exists_of_append_cons_eq hp hx ha huv.symm
  exact hb ⟨m, v, by rw [hm, List.append_assoc]⟩

theorem pieces_of_not_mem {sep : Char} {t : Text} (h : sep ∉ t) : pieces sep t = [t] := by
  induction t with
  | nil => rfl
  | cons c t ih =>
      rw [List.mem_cons, not_or] at h
      rw [pieces, if_neg (Ne.symm h.1), ih h.2]

/-- A separator ends one piece and begins the next. -/
theorem pieces_append_cons (sep : Char) (t u : Text) :
    pieces sep (t ++ sep :: u) = pieces sep t ++ pieces sep u := by
  induction t with
  | nil => simp [pieces]
  | cons c t ih =>
      rw [List.cons_append]
      by_cases hc : c = sep
      · rw [pieces, if_pos hc, ih, pieces, if_pos hc, List.cons_append]
      · rw [pieces, if_neg hc, ih, pieces, if_neg hc]
        cases hp : pieces sep t with
        | nil => exact absurd hp (pieces_ne_nil sep t)
        | cons p ps => rfl

/-- Where two texts meet, the last piece of the one and the first piece of the other become one. -/
theorem pieces_append (sep : Char) (t u : Text) :
    ∃ ts l x us, pieces sep t = ts ++ [l] ∧ pieces sep u = x :: us ∧
      pieces sep (t ++ u) = ts ++ (l ++ x) :: us := by
  induction t with
  | nil =>
      cases hu : pieces sep u with
      | nil => exact absurd hu (pieces_ne_nil sep u)
      | cons x us => exact ⟨[], [], x, us, rfl, rfl, hu⟩
  | cons c t ih =>
      obtain ⟨ts, l, x, us, ht, hu, htu⟩ := ih
      rw [List.cons_append]
      by_cases hc : c = sep
      · refine ⟨[] :: ts, l, x, us, ?_, hu, ?_⟩
        · rw [pieces, if_pos hc, ht, List.cons_append]
        · rw [pieces, if_pos hc, htu, List.cons_append]
      · -- the character belongs to the first piece, which is the last one if there is no other
        rw [pieces, pieces, if_neg hc, if_neg hc, ht, htu]
        cases ts with
        | nil => exact ⟨[], c :: l, x, us, rfl, hu, rfl⟩
        | cons p ts => exact ⟨(c :: p) :: ts, l, x, us, rfl, hu, rfl⟩

/-- What does not hold the separator belongs to the first piece of what stands behind it. -/
theorem pieces_append_of_not_mem {sep : Char} {t : Text} (h : sep ∉ t) (u : Text) :
    ∃ x us, pieces sep u = x :: us ∧ pieces sep (t ++ u) = (t ++ x) :: us := by
  obtain ⟨ts, l, x, us, ht, hu, htu⟩ := pieces_append sep t u
  rw [pieces_of_not_mem h] at ht
  obtain ⟨rfl, rfl⟩ : [] = ts ∧ t = l := List.append_singleton_inj.mp ht
  exact ⟨x, us, hu, htu⟩

/-- The pieces can be read back from the text they are joined to. -/
theorem pieces_join {sep : Char} {ts : List Text} (hne : ts ≠ []) (h : ∀ t ∈ ts, sep ∉ t) :
    pieces sep (join [sep] ts) = ts := by
  induction ts with
  | nil => exact absurd rfl hne
  | cons t ts ih =>
      have ht : pieces sep t = [t] := pieces_of_not_mem (h t (by simp))
      cases ts with
      | nil => exact ht
      | cons u us =>
          have hrest : pieces sep (join [sep] (u :: us)) = u :: us :=
            ih (by simp) fun v hv => h v (List.mem_cons_of_mem _ hv)
          show pieces sep (t ++ [sep] ++ join [sep] (u :: us)) = t :: u :: us
          rw [List.append_assoc, List.singleton_append, pieces_append_cons, ht, hrest]
          rfl

/-- No piece holds the separator. -/
theorem not_mem_of_mem_pieces {sep : Char} {t p : Text} (hp : p ∈ pieces sep t) : sep ∉ p := by
  induction t generalizing p with
  | nil =>
      rw [List.mem_singleton.mp hp]
      simp
  | cons c t ih =>
      by_cases hc : c = sep
      · rw [pieces, if_pos hc] at hp
        rcases List.mem_cons.mp hp with rfl | hp
        · simp
        · exact ih hp
      · rw [pieces, if_neg hc] at hp
        cases hq : pieces sep t with
        | nil => exact absurd hq (pieces_ne_nil sep t)
        | cons q qs =>
            rw [hq] at hp ih
            rcases List.mem_cons.mp hp with rfl | hp
            · rw [List.mem_cons, not_or]
              exact ⟨Ne.symm hc, ih (by simp)⟩
            · exact ih (List.mem_cons_of_mem _ hp)

theorem length_pieces (sep : Char) (t : Text) :
    (pieces sep t).length = t.count sep + 1 := by
  induction t with
  | nil => rfl
  | cons c t ih =>
      by_cases hc : c = sep
      · rw [pieces, if_pos hc, List.length_cons, ih, hc, List.count_cons_self]
      · rw [pieces, if_neg hc, List.count_cons_of_ne hc]
        cases hp : pieces sep t with
        | nil => exact absurd hp (pieces_ne_nil sep t)
        | cons p ps =>
            rw [hp] at ih
            exact ih

/-- Every character of a text is a separator or stands in a piece. -/
theorem mem_pieces_of_mem {sep c : Char} {t : Text} (h : c ∈ t) :
    c = sep ∨ ∃ p ∈ pieces sep t, c ∈ p := by
  induction t with
  | nil => exact absurd h (by simp)
  | cons d t ih =>
      by_cases hd : d = sep
      · rw [pieces, if_pos hd]
        rcases List.mem_cons.mp h with rfl | h
        · exact Or.inl hd
        · rcases ih h with hc | ⟨p, hp, hc⟩
          · exact Or.inl hc
          · exact Or.inr ⟨p, List.mem_cons_of_mem _ hp, hc⟩
      · rw [pieces, if_neg hd]
        cases hq : pieces sep t with
        | nil => exact absurd hq (pieces_ne_nil sep t)
        | cons q qs =>
            rw [hq] at ih
            rcases List.mem_cons.mp h with rfl | h
            · exact Or.inr ⟨c :: q, by simp, by simp⟩
            · rcases ih h with hc | ⟨p, hp, hc⟩
              · exact Or.inl hc
              · rcases List.mem_cons.mp hp with rfl | hp
                · exact Or.inr ⟨d :: p, by simp, List.mem_cons_of_mem _ hc⟩
                · exact Or.inr ⟨p, List.mem_cons_of_mem _ hp, hc⟩

end StudioLookup.Text
