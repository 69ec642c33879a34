import StudioLookup.Proofs.Text.Pieces

set_option autoImplicit false

/-! # Texts made of lines

A page is a list of lines, each with a line feed at its end. What holds no line feed cannot
reach from one line into the next: `eq_lines_of_append` finds, for every such stretch of a page,
the line in which it stands. This is how the searches of this library, whose matches cross line
feeds only in their first gap, are brought down to single lines.
-/

namespace StudioLookup.Text

/-- The text whose lines are given, each with a line feed at its end. -/
def unlines (ls : List Text) : Text := ls.flatMap (· ++ ['\n'])

@[simp] theorem unlines_nil : unlines [] = [] := rfl

theorem unlines_cons (l : Text) (ls : List Text) :
    unlines (l :: ls) = l ++ '\n' :: unlines ls := by
  simp [unlines]

theorem unlines_append (ls ms : List Text) : unlines (ls ++ ms) = unlines ls ++ unlines ms := by
  simp [unlines]

/-- Lines above a text are cut off from it as they are. -/
theorem pieces_unlines_append {ls : List Text} (h : ∀ l ∈ ls, '\n' ∉ l) (t : Text) :
    pieces '\n' (unlines ls ++ t) = ls ++ pieces '\n' t := by
  induction ls with
  | nil => rfl
  | cons l ls ih =>
      have hl : '\n' ∉ l := h l List.mem_cons_self
      have hls : ∀ l' ∈ ls, '\n' ∉ l' := fun l' hl' => h l' (List.mem_cons_of_mem l hl')
      rw [unlines_cons, List.append_assoc, List.cons_append, pieces_append_cons,
        pieces_of_not_mem hl, ih hls]
      rfl

/-- Cut at its line feeds, a page gives its lines and the empty piece behind the last of them. -/
theorem pieces_unlines {ls : List Text} (h : ∀ l ∈ ls, '\n' ∉ l) :
    pieces '\n' (unlines ls) = ls ++ [[]] := by
  have hpieces := pieces_unlines_append h []
  rwa [List.append_nil] at hpieces

/-- The pieces of a text are its lines, the last of them without a line feed at its end. -/
theorem unlines_pieces (t : Text) : unlines (pieces '\n' t) = t ++ ['\n'] := by
  induction t with
  | nil => rfl
  | cons c t ih =>
      by_cases hc : c = '\n'
      · rw [pieces, if_pos hc, unlines_cons, ih, hc]
        rfl
      · rw [pieces, if_neg hc]
        cases hp : pieces '\n' t with
        | nil => exact absurd hp (pieces_ne_nil '\n' t)
        | cons p ps =>
            rw [hp, unlines_cons] at ih
            rw [unlines_cons, List.cons_append, ih, List.cons_append]

/-- A line stands in a text behind the lines above it. -/
theorem exists_append_of_line {t line : Text} {above below : List Text}
    (h : pieces '\n' t = above ++ line :: below) : ∃ rest, t = unlines above ++ (line ++ rest) := by
  have hlines : t ++ ['\n'] = (unlines above ++ line) ++ '\n' :: unlines below := by
    rw [← unlines_pieces, h, unlines_append, unlines_cons, List.append_assoc]
  refine ⟨('\n' :: unlines below).dropLast, ?_⟩
  have hdrop := congrArg List.dropLast hlines
  rw [List.dropLast_concat, List.dropLast_append_of_ne_nil (by simp)] at hdrop
  rw [hdrop, List.append_assoc]

theorem infix_of_mem_lines {t line : Text} (h : line ∈ pieces '\n' t) : line <:+: t := by
  obtain ⟨above, below, hcut⟩ := List.append_of_mem h
  obtain ⟨rest, ht⟩ := exists_append_of_line hcut
  exact ⟨unlines above, rest, by rw [ht, List.append_assoc]⟩

/-- A stretch `n` of a page that holds no line feed stands in one line: the line is `n` between
two texts `a` and `b`, and `n` is followed by `b` and the line feed in the page. -/
theorem eq_lines_of_append {ls : List Text} {u n v : Text} (hn : n ≠ []) (hlf : '\n' ∉ n)
    (h : unlines ls = u ++ (n ++ v)) :
    ∃ before a b after, ls = before ++ (a ++ (n ++ b)) :: after ∧
      u = unlines before ++ a ∧ v = b ++ '\n' :: unlines after := by
  induction ls generalizing u with
  | nil =>
      have hnil : u ++ (n ++ v) = [] := h.symm
      simp [hn] at hnil
  | cons l ls ih =>
      rw [unlines_cons, List.append_cons] at h
      rcases List.append_eq_append_iff.mp h with ⟨u', hu, hrest⟩ | ⟨w, hl, hrest⟩
      · -- the stretch begins after this line
        obtain ⟨before, a, b, after, hls, hu', hv⟩ := ih hrest
        refine ⟨l :: before, a, b, after, by rw [hls]; rfl, ?_, hv⟩
        rw [hu, hu', unlines_cons]
        simp
      · rcases List.eq_nil_or_concat w with rfl | ⟨w, c, rfl⟩
        · -- it begins at the very start of the next line
          rw [List.nil_append] at hrest
          obtain ⟨before, a, b, after, hls, hu', hv⟩ := ih (u := []) hrest.symm
          refine ⟨l :: before, a, b, after, by rw [hls]; rfl, ?_, hv⟩
          rw [List.append_nil] at hl
          rw [unlines_cons, ← hl, List.append_assoc, List.cons_append, ← hu']
        · -- it begins in this line, and the line feed at the end of the line is past it
          rw [List.concat_eq_append] at hl hrest
          have hl' : l = u ++ w ∧ c = '\n' := by
            have := List.append_inj' (hl.trans (List.append_assoc u w [c]).symm) rfl
            exact ⟨this.1, (List.cons.inj this.2).1.symm⟩
          obtain ⟨rfl, rfl⟩ := hl'
          rw [List.append_assoc, List.singleton_append] at hrest
          rcases List.append_eq_append_iff.mp hrest with ⟨b, hw, hv⟩ | ⟨x, hnw, hx⟩
          · exact ⟨[], u, b, ls, by rw [hw]; rfl, rfl, hv⟩
          · cases x with
            | nil =>
                rw [List.append_nil] at hnw
                refine ⟨[], u, [], ls, by rw [hnw, List.append_nil]; rfl, rfl, ?_⟩
                exact hx.symm
            | cons d x =>
                have hd : d = '\n' := (List.cons.inj hx).1.symm
                exact absurd (by rw [hnw, hd]; simp) hlf

/-- A line of a page that is put together from blocks of lines stands in one of the blocks. -/
theorem eq_blocks_of_flatMap {β : Type} {f : β → List Text} {bs : List β} {before after : List Text}
    {l : Text} (h : bs.flatMap f = before ++ l :: after) :
    ∃ earlier b later above below, bs = earlier ++ b :: later ∧ f b = above ++ l :: below ∧
      before = earlier.flatMap f ++ above := by
  induction bs generalizing before with
  | nil => exact absurd h.symm (by simp)
  | cons b bs ih =>
      rw [List.flatMap_cons] at h
      rcases List.append_eq_append_iff.mp h with ⟨above, hbefore, hrest⟩ | ⟨below, hb, hbelow⟩
      · obtain ⟨earlier, b', later, above', below, hbs, hb', habove⟩ := ih hrest
        refine ⟨b :: earlier, b', later, above', below, by rw [hbs]; rfl, hb', ?_⟩
        rw [hbefore, habove, List.flatMap_cons, List.append_assoc]
      · cases below with
        | nil =>
            rw [List.append_nil] at hb
            have hrest : bs.flatMap f = [] ++ l :: after := hbelow.symm
            obtain ⟨earlier, b', later, above', below, hbs, hb', habove⟩ := ih hrest
            refine ⟨b :: earlier, b', later, above', below, by rw [hbs]; rfl, hb', ?_⟩
            rw [← hb, List.flatMap_cons, List.append_assoc, ← habove, List.append_nil]
        | cons l' below =>
            obtain ⟨rfl, -⟩ := List.cons.inj hbelow
            exact ⟨[], b, bs, before, below, rfl, hb, rfl⟩

end StudioLookup.Text
