import Mathlib.Data.List.Basic
import StudioLookup.Location
import StudioLookup.Proofs.Text.Pieces

set_option autoImplicit false

/-! # Shortest paths

`Moves` says all that one piece of a path can do to a location: nothing, go down by a name, take the
last name back, or go up, which above the root leads nowhere. A location that is left only by such
moves is *reduced*: its names are names, and it does not climb above the root
(`isReduced_ofPath`).

The shortest path to a reduced location is cut into the steps it was put together from. Going them
one after the other gives the location back (`ofPath_toPath`), so a path is normal if and only if it
is the shortest path to a reduced location, and paths have one normal form if and only if they lead
to one location (`normalizePath_eq_iff_ofPath_eq`).
-/

namespace StudioLookup

open Text (join pieces)

/-- A piece of a path that leads down. -/
structure IsName (t : Text) : Prop where
  ne_nil : t ≠ []
  ne_dot : t ≠ ['.']
  ne_dots : t ≠ ['.', '.']
  slash_not_mem : '/' ∉ t

instance (t : Text) : Decidable (IsName t) :=
  decidable_of_iff (t ≠ [] ∧ t ≠ ['.'] ∧ t ≠ ['.', '.'] ∧ '/' ∉ t)
    ⟨fun ⟨hnil, hdot, hdots, hslash⟩ => ⟨hnil, hdot, hdots, hslash⟩,
      fun h => ⟨h.ne_nil, h.ne_dot, h.ne_dots, h.slash_not_mem⟩⟩

namespace Location

/-! ## One step -/

/-- What a piece of a path does to a location. -/
inductive Moves : Text → Location → Location → Prop where
  | empty (l : Location) : Moves [] l l
  | dot (l : Location) : Moves ['.'] l l
  | down {name : Text} (rooted : Bool) (climbs : Nat) (names : List Text) : IsName name →
      Moves name ⟨rooted, climbs, names⟩ ⟨rooted, climbs, names ++ [name]⟩
  | back (rooted : Bool) (climbs : Nat) (names : List Text) (name : Text) :
      Moves ['.', '.'] ⟨rooted, climbs, names ++ [name]⟩ ⟨rooted, climbs, names⟩
  | root (climbs : Nat) : Moves ['.', '.'] ⟨true, climbs, []⟩ ⟨true, climbs, []⟩
  | climb (climbs : Nat) : Moves ['.', '.'] ⟨false, climbs, []⟩ ⟨false, climbs + 1, []⟩

variable {l l' : Location} {piece : Text}

theorem Moves.step_eq (h : Moves piece l l') : l.step piece = l' := by
  cases h with
  | empty => rfl
  | dot => rfl
  | down rooted climbs names hname => simp [step, hname.ne_nil, hname.ne_dot, hname.ne_dots]
  | back rooted climbs names name => simp [step]
  | root climbs => rfl
  | climb climbs => rfl

theorem moves_step (h : '/' ∉ piece) (l : Location) : Moves piece l (l.step piece) := by
  obtain ⟨l', hmoves⟩ : ∃ l', Moves piece l l' := by
    obtain ⟨rooted, climbs, names⟩ := l
    by_cases hnil : piece = []
    · exact hnil ▸ ⟨_, .empty _⟩
    by_cases hdot : piece = ['.']
    · exact hdot ▸ ⟨_, .dot _⟩
    by_cases hdots : piece = ['.', '.']
    · subst hdots
      rcases List.eq_nil_or_concat names with rfl | ⟨names, name, rfl⟩
      · cases rooted with
        | true => exact ⟨_, .root climbs⟩
        | false => exact ⟨_, .climb climbs⟩
      · rw [List.concat_eq_append]
        exact ⟨_, .back rooted climbs names name⟩
    · exact ⟨_, .down rooted climbs names ⟨hnil, hdot, hdots, h⟩⟩
  rwa [hmoves.step_eq]

/-- What every move keeps is kept along a whole path. -/
theorem foldl_step_induction {P : Location → Prop} {ps : List Text} (hps : ∀ p ∈ ps, '/' ∉ p)
    (hmoves : ∀ {p l l'}, Moves p l l' → P l → P l') (hl : P l) : P (ps.foldl step l) := by
  induction ps generalizing l with
  | nil => exact hl
  | cons p ps ih =>
      obtain ⟨hp, hrest⟩ := List.forall_mem_cons.mp hps
      exact ih hrest (hmoves (moves_step hp l) hl)

/-! ## Reduced locations -/

/-- A location whose names are names and that does not climb above the root. -/
structure IsReduced (l : Location) : Prop where
  isName : ∀ n ∈ l.names, IsName n
  climbs_eq : l.rooted = true → l.climbs = 0

theorem Moves.rooted_eq (h : Moves piece l l') : l'.rooted = l.rooted := by
  cases h <;> rfl

theorem Moves.isReduced (h : Moves piece l l') (hl : l.IsReduced) : l'.IsReduced := by
  cases h with
  | empty => exact hl
  | dot => exact hl
  | down rooted climbs names hname =>
      refine ⟨fun n hn => ?_, hl.climbs_eq⟩
      rcases List.mem_append.mp hn with hn | hn
      · exact hl.isName n hn
      · rwa [List.mem_singleton.mp hn]
  | back rooted climbs names name =>
      exact ⟨fun n hn => hl.isName n (List.mem_append_left [name] hn), hl.climbs_eq⟩
  | root climbs => exact hl
  | climb climbs => exact ⟨hl.isName, fun h => by cases h⟩

theorem rooted_ofPath (path : Text) : (ofPath path).rooted = isAbsolutePath path :=
  foldl_step_induction (P := fun l => l.rooted = isAbsolutePath path)
    (fun _ hp => Text.not_mem_of_mem_pieces hp) (fun h hl => h.rooted_eq.trans hl) rfl

theorem isReduced_ofPath (path : Text) : (ofPath path).IsReduced :=
  foldl_step_induction (fun _ hp => Text.not_mem_of_mem_pieces hp) Moves.isReduced
    ⟨fun _ hn => absurd hn List.not_mem_nil, fun _ => rfl⟩

/-! ## The steps of a shortest path -/

/-- The pieces that the shortest path to a location is joined from. -/
def steps (l : Location) : List Text := List.replicate l.climbs ['.', '.'] ++ l.names

theorem toPath_eq (l : Location) :
    l.toPath = (if l.rooted then ['/'] else []) ++ join ['/'] l.steps := rfl

theorem IsReduced.steps_eq_names (h : l.IsReduced) (hrooted : l.rooted = true) :
    l.steps = l.names := by
  rw [steps, h.climbs_eq hrooted]
  rfl

theorem IsReduced.of_mem_steps (h : l.IsReduced) {p : Text} (hp : p ∈ l.steps) :
    p ≠ [] ∧ '/' ∉ p := by
  rcases List.mem_append.mp hp with hp | hp
  · rw [List.eq_of_mem_replicate hp]
    decide
  · exact ⟨(h.isName p hp).ne_nil, (h.isName p hp).slash_not_mem⟩

/-- Going a joined path is going its pieces. -/
theorem foldl_step_join {ps : List Text} (hps : ∀ p ∈ ps, '/' ∉ p) (l : Location) :
    (pieces '/' (join ['/'] ps)).foldl step l = ps.foldl step l := by
  cases ps with
  | nil => rfl
  | cons p ps => rw [Text.pieces_join (List.cons_ne_nil p ps) hps]

theorem foldl_step_names {names : List Text} (h : ∀ n ∈ names, IsName n) (rooted : Bool)
    (climbs : Nat) (above : List Text) :
    names.foldl step ⟨rooted, climbs, above⟩ = ⟨rooted, climbs, above ++ names⟩ := by
  induction names generalizing above with
  | nil => rw [List.foldl_nil, List.append_nil]
  | cons n names ih =>
      obtain ⟨hn, hrest⟩ := List.forall_mem_cons.mp h
      rw [List.foldl_cons, (Moves.down rooted climbs above hn).step_eq, ih hrest,
        List.append_assoc, List.singleton_append]

theorem foldl_step_climbs (n climbs : Nat) :
    (List.replicate n ['.', '.']).foldl step ⟨false, climbs, []⟩ = ⟨false, climbs + n, []⟩ := by
  induction n generalizing climbs with
  | zero => rfl
  | succ n ih =>
      rw [List.replicate_succ, List.foldl_cons, (Moves.climb climbs).step_eq, ih, Nat.add_assoc,
        Nat.add_comm 1 n]

theorem isAbsolutePath_join {ps : List Text} (h : ∀ p ∈ ps, p ≠ [] ∧ '/' ∉ p) :
    isAbsolutePath (join ['/'] ps) = false := by
  cases ps with
  | nil => rfl
  | cons p ps =>
      obtain ⟨hne, hslash⟩ := h p List.mem_cons_self
      obtain ⟨c, t, rfl⟩ := List.exists_cons_of_ne_nil hne
      obtain ⟨u, hu⟩ : ∃ u, join ['/'] ((c :: t) :: ps) = c :: u := by
        cases ps with
        | nil => exact ⟨t, rfl⟩
        | cons q qs => exact ⟨_, rfl⟩
      have hc : c ≠ '/' := fun heq => hslash (heq ▸ List.mem_cons_self)
      rw [hu]
      simp [isAbsolutePath, hc]

theorem getLast?_join_ne {ps : List Text} (h : ∀ p ∈ ps, p ≠ [] ∧ '/' ∉ p) :
    (join ['/'] ps).getLast? ≠ some '/' := by
  intro hlast
  obtain ⟨t, ht⟩ := List.getLast?_eq_some_iff.mp hlast
  cases ps with
  | nil => simp [join] at ht
  | cons p ps =>
      -- behind the slash there would be an empty piece
      have hpieces : p :: ps = pieces '/' t ++ [[]] := by
        rw [← Text.pieces_join (List.cons_ne_nil p ps) fun q hq => (h q hq).2, ht,
          Text.pieces_append_cons]
        rfl
      exact (h [] (by rw [hpieces]; simp)).1 rfl

/-- The shortest path to a location leads there. -/
theorem ofPath_toPath (h : l.IsReduced) : ofPath l.toPath = l := by
  have hslash : ∀ p ∈ l.steps, '/' ∉ p := fun p hp => (h.of_mem_steps hp).2
  obtain ⟨rooted, climbs, names⟩ := l
  cases rooted with
  | true =>
      have hclimbs : climbs = 0 := h.climbs_eq rfl
      subst hclimbs
      calc ofPath (toPath ⟨true, 0, names⟩)
          = (pieces '/' (join ['/'] names)).foldl step ⟨true, 0, []⟩ := rfl
        _ = names.foldl step ⟨true, 0, []⟩ := foldl_step_join hslash _
        _ = ⟨true, 0, names⟩ := foldl_step_names h.isName true 0 []
  | false =>
      have habs : isAbsolutePath (toPath ⟨false, climbs, names⟩) = false :=
        isAbsolutePath_join fun p hp => h.of_mem_steps hp
      calc ofPath (toPath ⟨false, climbs, names⟩)
          = (pieces '/' (join ['/'] (steps ⟨false, climbs, names⟩))).foldl step ⟨false, 0, []⟩ := by
            rw [ofPath, habs]
            rfl
        _ = (steps ⟨false, climbs, names⟩).foldl step ⟨false, 0, []⟩ := foldl_step_join hslash _
        _ = names.foldl step ⟨false, climbs, []⟩ := by
            rw [steps, List.foldl_append, foldl_step_climbs, Nat.zero_add]
        _ = ⟨false, climbs, names⟩ := foldl_step_names h.isName false climbs []

end Location

/-! ## Normal forms -/

open Location

variable {path path' : Text}

theorem ofPath_normalizePath (path : Text) : ofPath (normalizePath path) = ofPath path :=
  ofPath_toPath (isReduced_ofPath path)

/-- Paths have one normal form if and only if they lead to one location. -/
theorem normalizePath_eq_iff_ofPath_eq :
    normalizePath path = normalizePath path' ↔ ofPath path = ofPath path' := by
  constructor
  · intro h
    rw [← ofPath_normalizePath path, h, ofPath_normalizePath]
  · intro h
    rw [normalizePath, normalizePath, h]

theorem isAbsolutePath_normalizePath (path : Text) :
    isAbsolutePath (normalizePath path) = isAbsolutePath path := by
  rw [← rooted_ofPath, ofPath_normalizePath, rooted_ofPath]

/-- The normal form of a path is absolute and joined from names, or it is joined from some steps up
and names. -/
theorem normalizePath_form (path : Text) : ∃ names, (∀ n ∈ names, IsName n) ∧
    ((isAbsolutePath path = true ∧ normalizePath path = '/' :: join ['/'] names) ∨
      (isAbsolutePath path = false ∧ ∃ climbs,
        normalizePath path = join ['/'] (List.replicate climbs ['.', '.'] ++ names))) := by
  have hreduced := isReduced_ofPath path
  have hrooted := rooted_ofPath path
  refine ⟨(ofPath path).names, hreduced.isName, ?_⟩
  rw [normalizePath, toPath_eq, ← hrooted]
  cases hroot : (ofPath path).rooted with
  | true => exact Or.inl ⟨rfl, by rw [hreduced.steps_eq_names hroot]; rfl⟩
  | false => exact Or.inr ⟨rfl, (ofPath path).climbs, rfl⟩

/-- Only the root ends with a slash. -/
theorem eq_root_of_getLast?_normalizePath (h : (normalizePath path).getLast? = some '/') :
    normalizePath path = ['/'] := by
  have hlast := getLast?_join_ne fun p hp => (isReduced_ofPath path).of_mem_steps hp
  rw [normalizePath, toPath_eq] at h ⊢
  cases hjoin : join ['/'] (ofPath path).steps with
  | nil =>
      rw [hjoin] at h
      cases hroot : (ofPath path).rooted with
      | true => rfl
      | false => simp [hroot] at h
  | cons c t =>
      rw [hjoin] at h hlast
      rw [List.getLast?_append_of_ne_nil _ (List.cons_ne_nil c t)] at h
      exact absurd h hlast

end StudioLookup
