import Mathlib.Data.List.Basic
import StudioLookup.Text.Pattern

set_option autoImplicit false

/-! # What a search for a pattern finds

A pattern lies in a text in many ways: a *placement* says what stands before the match, which
character of the boundary begins it, and what each gap takes in (`Placed`, `Fits`). The search
of `Text/Pattern.lean` takes characters one by one and never looks back, but what it finds can be
said without it: `find?_eq_some_iff` says that `Pattern.find?` yields the captured gaps of the
placement that is *least*, comparing first how much text stands before the match, then the
boundary, then the gaps in their order, each by its length; and `find?_eq_none_iff` that it finds
nothing exactly when there is no placement.

Everything proved about searches elsewhere rests on these two statements and not on the
definition of the search.
-/

namespace StudioLookup

/-! ## Comparing lengths -/

/-- Of two sequences of texts, the first is no longer than the second: at the first place where
the lengths differ, it is shorter. -/
def NoLonger : List Text → List Text → Prop
  | g :: gs, g' :: gs' => g.length < g'.length ∨ (g.length = g'.length ∧ NoLonger gs gs')
  | _, _ => True

/-- Of a family of sequences of texts, one that is no longer than any other. -/
def IsShortest (P : List Text → Prop) (gs : List Text) : Prop :=
  P gs ∧ ∀ gs', P gs' → NoLonger gs gs'

theorem NoLonger.lengths_eq {gs gs' : List Text} (h : NoLonger gs gs') (h' : NoLonger gs' gs)
    (hl : gs.length = gs'.length) : gs.map List.length = gs'.map List.length := by
  induction gs generalizing gs' with
  | nil =>
      cases gs' with
      | nil => rfl
      | cons g' gs' => simp at hl
  | cons g gs ih =>
      cases gs' with
      | nil => simp at hl
      | cons g' gs' =>
          rcases h with hlt | ⟨heq, h⟩
          · rcases h' with hlt' | ⟨heq', -⟩
            · exact absurd hlt (by omega)
            · exact absurd hlt (by omega)
          · rcases h' with hlt' | ⟨-, h'⟩
            · exact absurd hlt' (by omega)
            · simp only [List.map_cons, heq]
              rw [ih h h' (by simpa using hl)]

theorem NoLonger.append_left {g g' : Text} {gs gs' : List Text} (u : Text)
    (h : NoLonger (g :: gs) (g' :: gs')) : NoLonger ((u ++ g) :: gs) ((u ++ g') :: gs') := by
  rcases h with hlt | ⟨heq, h⟩
  · exact Or.inl (by simpa using hlt)
  · exact Or.inr ⟨by simpa using heq, h⟩

/-! ## Placements -/

/-- How the parts of a pattern lie at the beginning of a text: what its gaps take in, captured or
not, in order. -/
inductive Fits : List Part → List Text → Text → Prop where
  | nil (t : Text) : Fits [] [] t
  | literal (l : Text) {ps : List Part} {gs : List Text} {t : Text} :
      Fits ps gs t → Fits (.literal l :: ps) gs (l ++ t)
  | one {k : CharClass} {c : Char} {ps : List Part} {gs : List Text} {t : Text} :
      k.contains c = true → Fits ps gs t → Fits (.one k :: ps) gs (c :: t)
  | gap {k : CharClass} {g : Text} {ps : List Part} {gs : List Text} {t : Text} :
      (∀ c ∈ g, k.contains c = true) → Fits ps gs t → Fits (.gap k :: ps) (g :: gs) (g ++ t)
  | capture {k : CharClass} {g : Text} {ps : List Part} {gs : List Text} {t : Text} :
      (∀ c ∈ g, k.contains c = true) → Fits ps gs t → Fits (.capture k :: ps) (g :: gs) (g ++ t)

/-- The captured ones among the gaps of a pattern. -/
def captured : List Part → List Text → List Text
  | .literal _ :: ps, gs => captured ps gs
  | .one _ :: ps, gs => captured ps gs
  | .gap _ :: ps, _ :: gs => captured ps gs
  | .capture _ :: ps, g :: gs => g :: captured ps gs
  | _, _ => []

/-- What may stand between the text before a match and its parts: a character of the boundary,
and nothing at the start of the text or if there is no boundary. -/
def Leads : Option CharClass → Bool → Text → Prop
  | none, _, lead => lead = []
  | some k, atStart, lead => (atStart = true ∧ lead = []) ∨ ∃ c, k.contains c = true ∧ lead = [c]

/-- How a pattern lies in a text: `before` and the boundary `lead` stand before its parts, and
`gs` are its gaps. The text is the whole one, or `fromStart` is false and something stands before
it. -/
def PlacedFrom (p : Pattern) (fromStart : Bool) (t before lead : Text) (gs : List Text) : Prop :=
  ∃ rest, t = before ++ (lead ++ rest) ∧ Leads p.boundary (fromStart && before.isEmpty) lead ∧
    Fits p.parts gs rest

/-- How a pattern lies in a whole text. -/
abbrev Placed (p : Pattern) (t before lead : Text) (gs : List Text) : Prop :=
  PlacedFrom p true t before lead gs

theorem fits_literal_iff {l : Text} {ps : List Part} {gs : List Text} {t : Text} :
    Fits (.literal l :: ps) gs t ↔ ∃ rest, t = l ++ rest ∧ Fits ps gs rest := by
  constructor
  · intro h
    cases h with | literal _ h => exact ⟨_, rfl, h⟩
  · rintro ⟨rest, rfl, h⟩
    exact .literal l h

theorem fits_one_iff {k : CharClass} {ps : List Part} {gs : List Text} {t : Text} :
    Fits (.one k :: ps) gs t ↔ ∃ c rest, t = c :: rest ∧ k.contains c = true ∧ Fits ps gs rest := by
  constructor
  · intro h
    cases h with | one hc h => exact ⟨_, _, rfl, hc, h⟩
  · rintro ⟨c, rest, rfl, hc, h⟩
    exact .one hc h

theorem fits_gap_iff {k : CharClass} {ps : List Part} {gs : List Text} {t : Text} :
    Fits (.gap k :: ps) gs t ↔ ∃ g gs' rest, gs = g :: gs' ∧ t = g ++ rest ∧
      (∀ c ∈ g, k.contains c = true) ∧ Fits ps gs' rest := by
  constructor
  · intro h
    cases h with | gap hg h => exact ⟨_, _, _, rfl, rfl, hg, h⟩
  · rintro ⟨g, gs', rest, rfl, rfl, hg, h⟩
    exact .gap hg h

theorem fits_capture_iff {k : CharClass} {ps : List Part} {gs : List Text} {t : Text} :
    Fits (.capture k :: ps) gs t ↔ ∃ g gs' rest, gs = g :: gs' ∧ t = g ++ rest ∧
      (∀ c ∈ g, k.contains c = true) ∧ Fits ps gs' rest := by
  constructor
  · intro h
    cases h with | capture hg h => exact ⟨_, _, _, rfl, rfl, hg, h⟩
  · rintro ⟨g, gs', rest, rfl, rfl, hg, h⟩
    exact .capture hg h

theorem Fits.length_eq {ps : List Part} {gs : List Text} {t : Text} (h : Fits ps gs t)
    {gs' : List Text} {t' : Text} (h' : Fits ps gs' t') : gs.length = gs'.length := by
  induction h generalizing gs' t' with
  | nil => cases h'; rfl
  | literal l _ ih => cases h' with | literal _ h' => exact ih h'
  | one _ _ ih => cases h' with | one _ h' => exact ih h'
  | gap _ _ ih => cases h' with | gap _ h' => rw [List.length_cons, List.length_cons, ih h']
  | capture _ _ ih =>
      cases h' with | capture _ h' => rw [List.length_cons, List.length_cons, ih h']

/-- The lengths of the gaps determine how the parts lie. -/
theorem Fits.eq_of_lengths {ps : List Part} {gs : List Text} {t : Text} (h : Fits ps gs t)
    {gs' : List Text} {t' : Text} (h' : Fits ps gs' t') (ht : t = t')
    (hl : gs.map List.length = gs'.map List.length) : gs = gs' := by
  induction h generalizing gs' t' with
  | nil => cases h'; rfl
  | literal l _ ih =>
      cases h' with
      | literal _ h' => exact ih h' (List.append_cancel_left ht) hl
  | one _ _ ih =>
      cases h' with
      | one _ h' => exact ih h' (List.cons.inj ht).2 hl
  | gap _ _ ih =>
      cases h' with
      | gap _ h' =>
          rw [List.map_cons, List.map_cons, List.cons.injEq] at hl
          obtain ⟨hg, ht⟩ := List.append_inj ht hl.1
          rw [hg, ih h' ht hl.2]
  | capture _ _ ih =>
      cases h' with
      | capture _ h' =>
          rw [List.map_cons, List.map_cons, List.cons.injEq] at hl
          obtain ⟨hg, ht⟩ := List.append_inj ht hl.1
          rw [hg, ih h' ht hl.2]

/-! ## Shortest gaps -/

section Gaps

variable {α : Type} {k : CharClass} {next : Text → Option α}

/-- A gap is not taken when nothing after it fits, however long it is. -/
theorem shortestGap_eq_none_iff {t : Text} :
    shortestGap k next t = none ↔
      ∀ g rest, t = g ++ rest → (∀ c ∈ g, k.contains c = true) → next rest = none := by
  induction t with
  | nil =>
      rw [shortestGap, Option.map_eq_none_iff]
      constructor
      · intro hn g rest ht _
        rw [(List.append_eq_nil_iff.mp ht.symm).2]
        exact hn
      · intro h
        exact h [] [] rfl (by simp)
  | cons c t ih =>
      constructor
      · intro hn g rest ht hg
        rw [shortestGap] at hn
        cases hnext : next (c :: t) with
        | some a => simp [hnext] at hn
        | none =>
            -- the empty gap is tried first, then the gap that begins with `c`
            cases g with
            | nil => rw [← hnext, ht]; rfl
            | cons d g =>
                obtain ⟨rfl, rfl⟩ := List.cons.inj ht
                rw [hnext] at hn
                simp only [hg c (by simp), if_true, Option.map_eq_none_iff] at hn
                exact ih.mp hn g rest rfl fun d hd => hg d (List.mem_cons_of_mem _ hd)
      · intro h
        rw [shortestGap, h [] (c :: t) rfl (by simp)]
        by_cases hc : k.contains c = true
        · simp only [hc, if_true, Option.map_eq_none_iff]
          refine ih.mpr fun g rest ht hg => h (c :: g) rest (by rw [ht]; rfl) ?_
          intro d hd
          rcases List.mem_cons.mp hd with rfl | hd
          · exact hc
          · exact hg d hd
        · simp [hc]

/-- A gap that is taken ends at the first place after which the rest fits. -/
theorem shortestGap_eq_some {t g : Text} {a : α} (h : shortestGap k next t = some (g, a)) :
    ∃ rest, t = g ++ rest ∧ (∀ c ∈ g, k.contains c = true) ∧ next rest = some a ∧
      ∀ u v, t = u ++ v → u.length < g.length → next v = none := by
  induction t generalizing g with
  | nil =>
      rw [shortestGap, Option.map_eq_some_iff] at h
      obtain ⟨b, hb, heq⟩ := h
      obtain ⟨rfl, rfl⟩ := Prod.mk.inj heq
      exact ⟨[], rfl, by simp, hb, fun u v _ hlt => absurd hlt (by simp)⟩
  | cons c t ih =>
      rw [shortestGap] at h
      cases hnext : next (c :: t) with
      | some b =>
          rw [hnext] at h
          obtain ⟨rfl, rfl⟩ := Prod.mk.inj (Option.some.inj h)
          exact ⟨c :: t, rfl, by simp, hnext, fun u v _ hlt => absurd hlt (by simp)⟩
      | none =>
          rw [hnext] at h
          by_cases hc : k.contains c = true
          · simp only [hc, if_true, Option.map_eq_some_iff] at h
            obtain ⟨⟨g', b⟩, hg', heq⟩ := h
            obtain ⟨rfl, rfl⟩ := Prod.mk.inj heq
            obtain ⟨rest, ht, hin, hb, hleast⟩ := ih hg'
            refine ⟨rest, by rw [ht]; rfl, ?_, hb, ?_⟩
            · intro d hd
              rcases List.mem_cons.mp hd with rfl | hd
              · exact hc
              · exact hin d hd
            · intro u v huv hlt
              cases u with
              | nil => rw [← hnext, huv]; rfl
              | cons d u =>
                  refine hleast u v (List.cons.inj huv).2 ?_
                  simpa using hlt
          · simp [hc] at h

end Gaps

/-! ## Parts -/

/-- The parts match exactly when they can be laid at the beginning of the text. -/
theorem matchParts_eq_none_iff {ps : List Part} {t : Text} :
    matchParts ps t = none ↔ ∀ gs, ¬ Fits ps gs t := by
  induction ps generalizing t with
  | nil =>
      rw [matchParts]
      exact ⟨fun h => absurd h (by simp), fun h => absurd (Fits.nil t) (h [])⟩
  | cons p ps ih =>
      cases p with
      | literal l =>
          rw [matchParts]
          simp only [fits_literal_iff, not_exists, not_and]
          cases hl : l.isPrefixOf? t with
          | none =>
              refine ⟨fun _ gs rest ht => ?_, fun _ => rfl⟩
              rw [List.isPrefixOf?_eq_some_iff_append_eq.mpr ht.symm] at hl
              exact absurd hl (by simp)
          | some rest =>
              obtain rfl := List.isPrefixOf?_eq_some_iff_append_eq.mp hl
              refine ih.trans ⟨fun h gs rest' ht => ?_, fun h gs => h gs rest rfl⟩
              rw [← List.append_cancel_left ht]
              exact h gs
      | one k =>
          simp only [fits_one_iff, not_exists, not_and]
          cases t with
          | nil => exact ⟨fun _ gs c rest ht => absurd ht (by simp), fun _ => rfl⟩
          | cons c t =>
              by_cases hc : k.contains c = true
              · rw [matchParts, if_pos hc]
                refine ih.trans ⟨fun h gs d rest ht _ => ?_, fun h gs => h gs c t rfl hc⟩
                rw [← (List.cons.inj ht).2]
                exact h gs
              · rw [matchParts, if_neg hc]
                refine ⟨fun _ gs d rest ht hd => absurd ?_ hc, fun _ => rfl⟩
                rw [(List.cons.inj ht).1]
                exact hd
      | gap k =>
          rw [matchParts, Option.map_eq_none_iff, shortestGap_eq_none_iff]
          simp only [fits_gap_iff, not_exists, not_and]
          exact ⟨fun h _ g gs rest _ ht hg => ih.mp (h g rest ht hg) gs,
            fun h g rest ht hg => ih.mpr fun gs => h (g :: gs) g gs rest rfl ht hg⟩
      | capture k =>
          rw [matchParts, Option.map_eq_none_iff, shortestGap_eq_none_iff]
          simp only [fits_capture_iff, not_exists, not_and]
          exact ⟨fun h _ g gs rest _ ht hg => ih.mp (h g rest ht hg) gs,
            fun h g rest ht hg => ih.mpr fun gs => h (g :: gs) g gs rest rfl ht hg⟩

/-- A gap that ends as early as it can, before gaps that are the shortest for what follows, is
the shortest way to lay all of them. -/
theorem isShortest_cons {ps : List Part} {g : Text} {gs : List Text} {t rest : Text}
    (ht : t = g ++ rest)
    (hleast : ∀ u v, t = u ++ v → u.length < g.length → matchParts ps v = none)
    (hgs : IsShortest (Fits ps · rest) gs) {g' : Text} {gs' : List Text} {rest' : Text}
    (ht' : t = g' ++ rest') (hfit : Fits ps gs' rest') : NoLonger (g :: gs) (g' :: gs') := by
  -- a shorter gap leaves a rest that does not match, one of equal length leaves the same rest
  rcases Nat.lt_trichotomy g'.length g.length with hlt | heq | hgt
  · exact absurd hfit (matchParts_eq_none_iff.mp (hleast g' rest' ht' hlt) gs')
  · obtain ⟨-, rfl⟩ := List.append_inj (ht'.symm.trans ht) heq
    exact Or.inr ⟨heq.symm, hgs.2 gs' hfit⟩
  · exact Or.inl hgt

/-- What the parts match with is the shortest way in which they can be laid. -/
theorem isShortest_of_matchParts {ps : List Part} {t : Text} {cs : List Text}
    (h : matchParts ps t = some cs) :
    ∃ gs, IsShortest (Fits ps · t) gs ∧ captured ps gs = cs := by
  induction ps generalizing t cs with
  | nil =>
      rw [matchParts] at h
      exact ⟨[], ⟨.nil t, fun _ _ => trivial⟩, Option.some.inj h⟩
  | cons p ps ih =>
      cases p with
      | literal l =>
          rw [matchParts] at h
          cases hl : l.isPrefixOf? t with
          | none => simp [hl] at h
          | some rest =>
              rw [hl] at h
              obtain rfl := List.isPrefixOf?_eq_some_iff_append_eq.mp hl
              obtain ⟨gs, ⟨hfit, hleast⟩, hcs⟩ := ih h
              refine ⟨gs, ⟨.literal l hfit, fun gs' hfit' => ?_⟩, hcs⟩
              obtain ⟨rest', ht, hfit'⟩ := fits_literal_iff.mp hfit'
              rw [← List.append_cancel_left ht] at hfit'
              exact hleast gs' hfit'
      | one k =>
          cases t with
          | nil => simp [matchParts] at h
          | cons c t =>
              by_cases hc : k.contains c = true
              · rw [matchParts, if_pos hc] at h
                obtain ⟨gs, ⟨hfit, hleast⟩, hcs⟩ := ih h
                refine ⟨gs, ⟨.one hc hfit, fun gs' hfit' => ?_⟩, hcs⟩
                obtain ⟨d, rest', ht, -, hfit'⟩ := fits_one_iff.mp hfit'
                rw [← (List.cons.inj ht).2] at hfit'
                exact hleast gs' hfit'
              · rw [matchParts, if_neg hc] at h
                exact absurd h (by simp)
      | gap k =>
          rw [matchParts, Option.map_eq_some_iff] at h
          obtain ⟨⟨g, cs'⟩, hgap, rfl⟩ := h
          obtain ⟨rest, ht, hg, hrest, hleast⟩ := shortestGap_eq_some hgap
          obtain ⟨gs, hgs, hcs⟩ := ih hrest
          refine ⟨g :: gs, ⟨fits_gap_iff.mpr ⟨g, gs, rest, rfl, ht, hg, hgs.1⟩, ?_⟩, hcs⟩
          intro gs' hfit'
          obtain ⟨g', gs'', rest', rfl, ht', -, hfit'⟩ := fits_gap_iff.mp hfit'
          exact isShortest_cons ht hleast hgs ht' hfit'
      | capture k =>
          rw [matchParts, Option.map_eq_some_iff] at h
          obtain ⟨⟨g, cs'⟩, hgap, rfl⟩ := h
          obtain ⟨rest, ht, hg, hrest, hleast⟩ := shortestGap_eq_some hgap
          obtain ⟨gs, hgs, hcs⟩ := ih hrest
          refine ⟨g :: gs, ⟨fits_capture_iff.mpr ⟨g, gs, rest, rfl, ht, hg, hgs.1⟩, ?_⟩, ?_⟩
          · intro gs' hfit'
            obtain ⟨g', gs'', rest', rfl, ht', -, hfit'⟩ := fits_capture_iff.mp hfit'
            exact isShortest_cons ht hleast hgs ht' hfit'
          · rw [captured, hcs]

/-! ## The whole search -/

namespace Pattern

variable {p : Pattern} {t : Text} {cs : List Text}

theorem matchBehind_eq_none_iff {k : CharClass} {ps : List Part} :
    matchBehind k ps t = none ↔
      ∀ c rest gs, t = c :: rest → k.contains c = true → ¬ Fits ps gs rest := by
  cases t with
  | nil => exact ⟨fun _ c rest gs h => absurd h (by simp), fun _ => rfl⟩
  | cons c t =>
      by_cases hc : k.contains c = true
      · rw [matchBehind, if_pos hc, matchParts_eq_none_iff]
        refine ⟨fun h d rest gs ht _ => ?_, fun h gs => h c t gs rfl hc⟩
        rw [← (List.cons.inj ht).2]
        exact h gs
      · rw [matchBehind, if_neg hc]
        refine ⟨fun _ d rest gs ht hd => absurd ?_ hc, fun _ => rfl⟩
        rw [(List.cons.inj ht).1]
        exact hd

/-- A match behind a character of the boundary is the shortest among the placements there. -/
theorem isShortest_of_matchBehind {k : CharClass} {ps : List Part}
    (h : matchBehind k ps t = some cs) :
    ∃ c rest gs, t = c :: rest ∧ k.contains c = true ∧ IsShortest (Fits ps · rest) gs ∧
      captured ps gs = cs := by
  cases t with
  | nil => cases h
  | cons c t =>
      by_cases hc : k.contains c = true
      · rw [matchBehind, if_pos hc] at h
        obtain ⟨gs, hgs, hcs⟩ := isShortest_of_matchParts h
        exact ⟨c, t, gs, rfl, hc, hgs, hcs⟩
      · rw [matchBehind, if_neg hc] at h
        cases h

/-- No match begins at the beginning of the text exactly when no placement does. -/
theorem matchHere_eq_none_iff {atStart : Bool} :
    p.matchHere atStart t = none ↔
      ∀ lead rest gs, t = lead ++ rest → Leads p.boundary atStart lead →
        ¬ Fits p.parts gs rest := by
  cases hk : p.boundary with
  | none =>
      simp only [matchHere, hk, matchParts_eq_none_iff]
      constructor
      · rintro h lead rest gs ht rfl
        rw [List.nil_append] at ht
        exact ht ▸ h gs
      · exact fun h gs => h [] t gs rfl rfl
  | some k =>
      have hbehind : (∀ lead rest gs, t = lead ++ rest → Leads (some k) atStart lead →
            ¬ Fits p.parts gs rest) ↔
          (atStart = true → matchParts p.parts t = none) ∧ matchBehind k p.parts t = none := by
        rw [matchBehind_eq_none_iff]
        constructor
        · intro h
          refine ⟨fun hs => matchParts_eq_none_iff.mpr fun gs => ?_, fun c rest gs ht hc => ?_⟩
          · exact h [] t gs rfl (Or.inl ⟨hs, rfl⟩)
          · exact h [c] rest gs ht (Or.inr ⟨c, hc, rfl⟩)
        · rintro ⟨hparts, hbehind⟩ lead rest gs ht (⟨hs, rfl⟩ | ⟨c, hc, rfl⟩)
          · rw [List.nil_append] at ht
            exact ht ▸ matchParts_eq_none_iff.mp (hparts hs) gs
          · exact hbehind c rest gs ht hc
      rw [hbehind]
      cases atStart with
      | false => simp [matchHere, hk]
      | true =>
          cases hm : matchParts p.parts t with
          | none => simp [matchHere, hk, hm]
          | some gs => simp [matchHere, hk, hm]

/-- A match at the beginning of the text is the shortest among the placements there. -/
theorem isShortest_of_matchHere {atStart : Bool} (h : p.matchHere atStart t = some cs) :
    ∃ lead rest gs, t = lead ++ rest ∧ Leads p.boundary atStart lead ∧ Fits p.parts gs rest ∧
      captured p.parts gs = cs ∧
      ∀ lead' rest' gs', t = lead' ++ rest' → Leads p.boundary atStart lead' →
        Fits p.parts gs' rest' → NoLonger (lead :: gs) (lead' :: gs') := by
  cases hk : p.boundary with
  | none =>
      rw [matchHere, hk] at h
      obtain ⟨gs, ⟨hfit, hleast⟩, hcs⟩ := isShortest_of_matchParts h
      refine ⟨[], t, gs, rfl, rfl, hfit, hcs, ?_⟩
      rintro lead' rest' gs' ht rfl hfit'
      rw [List.nil_append] at ht
      exact Or.inr ⟨rfl, hleast gs' (ht ▸ hfit')⟩
  | some k =>
      by_cases hstart : atStart = true ∧ (matchParts p.parts t).isSome
      · -- at the start of the text, where the boundary may be absent
        obtain ⟨rfl, hsome⟩ := hstart
        obtain ⟨cs', hm⟩ := Option.isSome_iff_exists.mp hsome
        have hcs' : cs' = cs := by simpa [matchHere, hk, hm] using h
        obtain ⟨gs, ⟨hfit, hleast⟩, hcs⟩ := isShortest_of_matchParts hm
        refine ⟨[], t, gs, rfl, Or.inl ⟨rfl, rfl⟩, hfit, by rw [hcs, hcs'], ?_⟩
        rintro lead' rest' gs' ht (⟨-, rfl⟩ | ⟨c, -, rfl⟩) hfit'
        · rw [List.nil_append] at ht
          exact Or.inr ⟨rfl, hleast gs' (ht ▸ hfit')⟩
        · exact Or.inl (by simp)
      · -- after a character of the boundary
        have hbehind : matchBehind k p.parts t = some cs := by
          rw [matchHere, hk] at h
          cases atStart with
          | false => exact h
          | true =>
              cases hm : matchParts p.parts t with
              | none => simpa [hm] using h
              | some gs => exact absurd ⟨rfl, by simp [hm]⟩ hstart
        obtain ⟨c, rest, gs, rfl, hc, ⟨hfit, hleast⟩, hcs⟩ := isShortest_of_matchBehind hbehind
        refine ⟨[c], rest, gs, rfl, Or.inr ⟨c, hc, rfl⟩, hfit, hcs, ?_⟩
        rintro lead' rest' gs' ht (⟨hs, rfl⟩ | ⟨d, -, rfl⟩) hfit'
        · rw [List.nil_append] at ht
          refine absurd ⟨hs, ?_⟩ hstart
          rw [Option.isSome_iff_ne_none, ne_eq, matchParts_eq_none_iff]
          exact fun h => h gs' (ht ▸ hfit')
        · obtain ⟨-, rfl⟩ := List.cons.inj ht
          exact Or.inr ⟨rfl, hleast gs' hfit'⟩

/-- A placement in a text begins at its beginning or lies in the text after its first
character. -/
theorem placedFrom_cons_iff {fromStart : Bool} {c : Char} {before lead : Text} {gs : List Text} :
    PlacedFrom p fromStart (c :: t) before lead gs ↔
      (before = [] ∧ ∃ rest, c :: t = lead ++ rest ∧ Leads p.boundary fromStart lead ∧
        Fits p.parts gs rest) ∨
      ∃ before', before = c :: before' ∧ PlacedFrom p false t before' lead gs := by
  constructor
  · rintro ⟨rest, ht, hlead, hfit⟩
    cases before with
    | nil => exact Or.inl ⟨rfl, rest, ht, by simpa using hlead, hfit⟩
    | cons d before =>
        obtain ⟨rfl, htail⟩ := List.cons.inj ht
        exact Or.inr ⟨before, rfl, rest, htail, by simpa using hlead, hfit⟩
  · rintro (⟨rfl, rest, ht, hlead, hfit⟩ | ⟨before', rfl, rest, ht, hlead, hfit⟩)
    · exact ⟨rest, ht, by simpa using hlead, hfit⟩
    · exact ⟨rest, by rw [ht]; rfl, by simpa using hlead, hfit⟩

theorem placedFrom_nil_iff {fromStart : Bool} {before lead : Text} {gs : List Text} :
    PlacedFrom p fromStart [] before lead gs ↔
      before = [] ∧ ∃ rest, [] = lead ++ rest ∧ Leads p.boundary fromStart lead ∧
        Fits p.parts gs rest := by
  constructor
  · rintro ⟨rest, ht, hlead, hfit⟩
    obtain ⟨rfl, hnil⟩ := List.append_eq_nil_iff.mp ht.symm
    exact ⟨rfl, rest, hnil.symm, by simpa using hlead, hfit⟩
  · rintro ⟨rfl, rest, ht, hlead, hfit⟩
    exact ⟨rest, ht, by simpa using hlead, hfit⟩

theorem findFrom_eq_none_iff {fromStart : Bool} :
    p.findFrom fromStart t = none ↔
      ∀ before lead gs, ¬ PlacedFrom p fromStart t before lead gs := by
  induction t generalizing fromStart with
  | nil =>
      rw [findFrom, matchHere_eq_none_iff]
      simp only [placedFrom_nil_iff, not_and, not_exists]
      exact ⟨fun h before lead gs _ rest => h lead rest gs,
        fun h lead rest gs => h [] lead gs rfl rest⟩
  | cons c t ih =>
      have hsplit : p.findFrom fromStart (c :: t) = none ↔
          p.matchHere fromStart (c :: t) = none ∧ p.findFrom false t = none := by
        cases hm : p.matchHere fromStart (c :: t) with
        | none => simp [findFrom, hm]
        | some gs => simp [findFrom, hm]
      rw [hsplit, matchHere_eq_none_iff, ih]
      simp only [placedFrom_cons_iff, not_or, not_and, not_exists]
      constructor
      · rintro ⟨hhere, hlater⟩ before lead gs
        exact ⟨fun _ rest => hhere lead rest gs, fun before' _ => hlater before' lead gs⟩
      · exact fun h => ⟨fun lead rest gs => (h [] lead gs).1 rfl rest,
          fun before lead gs => (h (c :: before) lead gs).2 before rfl⟩

theorem isShortest_of_findFrom {fromStart : Bool} (h : p.findFrom fromStart t = some cs) :
    ∃ before lead gs, PlacedFrom p fromStart t before lead gs ∧ captured p.parts gs = cs ∧
      ∀ before' lead' gs', PlacedFrom p fromStart t before' lead' gs' →
        NoLonger (before :: lead :: gs) (before' :: lead' :: gs') := by
  induction t generalizing fromStart with
  | nil =>
      obtain ⟨lead, rest, gs, ht, hlead, hfit, hcs, hleast⟩ := isShortest_of_matchHere h
      refine ⟨[], lead, gs, placedFrom_nil_iff.mpr ⟨rfl, rest, ht, hlead, hfit⟩, hcs, ?_⟩
      intro before' lead' gs' hplaced
      obtain ⟨rfl, rest', ht', hlead', hfit'⟩ := placedFrom_nil_iff.mp hplaced
      exact Or.inr ⟨rfl, hleast lead' rest' gs' ht' hlead' hfit'⟩
  | cons c t ih =>
      rw [findFrom] at h
      cases hm : p.matchHere fromStart (c :: t) with
      | some cs' =>
          -- the match begins at the first character
          obtain rfl : cs' = cs := by simpa [hm] using h
          obtain ⟨lead, rest, gs, ht, hlead, hfit, hcs, hleast⟩ := isShortest_of_matchHere hm
          refine ⟨[], lead, gs, placedFrom_cons_iff.mpr (Or.inl ⟨rfl, rest, ht, hlead, hfit⟩),
            hcs, ?_⟩
          intro before' lead' gs' hplaced
          rcases placedFrom_cons_iff.mp hplaced with ⟨rfl, rest', ht', hlead', hfit'⟩ | ⟨b, rfl, -⟩
          · exact Or.inr ⟨rfl, hleast lead' rest' gs' ht' hlead' hfit'⟩
          · exact Or.inl (by simp)
      | none =>
          -- it begins later, and no placement begins here
          rw [hm] at h
          obtain ⟨before, lead, gs, hplaced, hcs, hleast⟩ := ih h
          refine ⟨c :: before, lead, gs,
            placedFrom_cons_iff.mpr (Or.inr ⟨before, rfl, hplaced⟩), hcs, ?_⟩
          intro before' lead' gs' hplaced'
          rcases placedFrom_cons_iff.mp hplaced' with ⟨-, rest', ht', hlead', hfit'⟩ | ⟨b, rfl, hb⟩
          · exact absurd hfit' (matchHere_eq_none_iff.mp hm lead' rest' gs' ht' hlead')
          · rcases hleast b lead' gs' hb with hlt | ⟨heq, hrest⟩
            · exact Or.inl (by simpa using hlt)
            · exact Or.inr ⟨by simpa using heq, hrest⟩

/-- The lengths of a placement determine it. -/
theorem placedFrom_unique {fromStart : Bool} {before lead before' lead' : Text}
    {gs gs' : List Text} (h : PlacedFrom p fromStart t before lead gs)
    (h' : PlacedFrom p fromStart t before' lead' gs')
    (hle : NoLonger (before :: lead :: gs) (before' :: lead' :: gs'))
    (hge : NoLonger (before' :: lead' :: gs') (before :: lead :: gs)) :
    before = before' ∧ lead = lead' ∧ gs = gs' := by
  obtain ⟨rest, ht, -, hfit⟩ := h
  obtain ⟨rest', ht', -, hfit'⟩ := h'
  -- none is longer than the other, so all lengths agree and the two cut the text alike
  have hl := hle.lengths_eq hge (by simp [hfit.length_eq hfit'])
  simp only [List.map_cons, List.cons.injEq] at hl
  obtain ⟨hbefore, hlead, hgs⟩ := hl
  obtain ⟨rfl, hafter⟩ := List.append_inj (ht.symm.trans ht') hbefore
  obtain ⟨rfl, hrest⟩ := List.append_inj hafter hlead
  exact ⟨rfl, rfl, hfit.eq_of_lengths hfit' hrest hgs⟩

/-- A search finds nothing exactly when there is no placement. -/
theorem find?_eq_none_iff : p.find? t = none ↔ ∀ before lead gs, ¬ Placed p t before lead gs :=
  findFrom_eq_none_iff

/-- **What a search finds**: the captured gaps of the least placement. -/
theorem find?_eq_some_iff :
    p.find? t = some cs ↔
      ∃ before lead gs, Placed p t before lead gs ∧ captured p.parts gs = cs ∧
        ∀ before' lead' gs', Placed p t before' lead' gs' →
          NoLonger (before :: lead :: gs) (before' :: lead' :: gs') := by
  constructor
  · exact isShortest_of_findFrom
  · rintro ⟨before, lead, gs, hplaced, hcs, hleast⟩
    cases hf : p.find? t with
    | none => exact absurd hplaced (find?_eq_none_iff.mp hf before lead gs)
    | some cs' =>
        -- what was found is a least placement as well, and there is only one
        obtain ⟨before', lead', gs', hplaced', hcs', hleast'⟩ := isShortest_of_findFrom hf
        obtain ⟨-, -, rfl⟩ := placedFrom_unique hplaced hplaced'
          (hleast before' lead' gs' hplaced') (hleast' before lead gs hplaced)
        rw [← hcs, ← hcs']

end Pattern

end StudioLookup
