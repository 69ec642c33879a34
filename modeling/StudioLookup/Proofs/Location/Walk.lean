import StudioLookup.Proofs.Location.ShortestPath

set_option autoImplicit false

/-! # Walking along a path

`walk` says what a path means: the directory that is reached from a given one, both of them given by
the names that lead to them from the root. It goes piece by piece and knows nothing of locations.

A location that a path leads to is a short account of its walk, seen from anywhere: it forgets the
last names of the directory, or all of them, and adds its own (`walk_eq_seenFrom`). So the normal
form has the walk of the path, and since a reduced location can be read back from where it leads
from directories of different depths (`IsReduced.eq_of_seenFrom`), paths with different normal forms
are told apart by their walks (`normalizePath_eq_of_walk_eq`). Together this makes the normal form
canonical (`normalizePath_canonical`).
-/

namespace StudioLookup

open Text (join pieces)

/-- One piece of a path, gone in a directory: an empty one and `.` stay, `..` takes the last name
away, if there is one, and any other is a name that is added. -/
def walkPiece (dir : List Text) (piece : Text) : List Text :=
  if piece = [] ∨ piece = ['.'] then dir
  else if piece = ['.', '.'] then dir.dropLast
  else dir ++ [piece]

/-- Where a path leads from a directory. A slash at the beginning leads to the root first. -/
def walk (dir : List Text) (path : Text) : List Text :=
  (pieces '/' path).foldl walkPiece (if path.head? = some '/' then [] else dir)

variable {path path' : Text}

/-! ## Paths one behind the other -/

theorem isAbsolutePath_iff_head? : isAbsolutePath path = true ↔ path.head? = some '/' := by
  cases path with
  | nil => simp [isAbsolutePath]
  | cons c t =>
      by_cases hc : c = '/'
      · simp [hc, isAbsolutePath]
      · simp [hc, isAbsolutePath]

theorem walk_eq (dir : List Text) (path : Text) :
    walk dir path =
      (pieces '/' path).foldl walkPiece (if isAbsolutePath path = true then [] else dir) := by
  simp only [walk, isAbsolutePath_iff_head?]

/-- An absolute path leads to one place from everywhere. -/
theorem walk_of_isAbsolutePath (h : isAbsolutePath path = true) (dir dir' : List Text) :
    walk dir path = walk dir' path := by
  rw [walk_eq, walk_eq, if_pos h, if_pos h]

theorem walk_of_not_isAbsolutePath (h : isAbsolutePath path = false) (dir : List Text) :
    walk dir path = (pieces '/' path).foldl walkPiece dir := by
  have hrel : ¬ isAbsolutePath path = true := by simp [h]
  rw [walk_eq, if_neg hrel]

/-- What stands behind a slash is walked from where the path before it leads. -/
theorem walk_append_slash (h : path ≠ []) (dir : List Text) (rest : Text) :
    walk dir (path ++ '/' :: rest) = (pieces '/' rest).foldl walkPiece (walk dir path) := by
  obtain ⟨c, t, rfl⟩ := List.exists_cons_of_ne_nil h
  rw [walk, walk, Text.pieces_append_cons, List.foldl_append]
  rfl

theorem walk_concat_slash (dir : List Text) (path rest : Text) :
    walk dir (path ++ '/' :: rest) =
      (pieces '/' rest).foldl walkPiece (walk dir (path ++ ['/'])) := by
  cases path with
  | nil => rfl
  | cons c t =>
      rw [walk_append_slash (List.cons_ne_nil c t), walk_append_slash (List.cons_ne_nil c t)]
      rfl

/-- A path that is appended is walked from where the one before it leads. -/
theorem walk_appendPath (dir : List Text) (base path : Text) :
    walk dir (appendPath base path) = walk (walk dir base) path := by
  unfold appendPath
  cases habs : isAbsolutePath path with
  | true => exact walk_of_isAbsolutePath habs dir _
  | false =>
      rw [walk_of_not_isAbsolutePath habs (walk dir base), if_neg Bool.false_ne_true]
      rcases List.eq_nil_or_concat base with rfl | ⟨t, c, rfl⟩
      · exact walk_of_not_isAbsolutePath habs dir
      · rw [List.concat_eq_append]
        by_cases hc : c = '/'
        · subst hc
          have hlast : ((t ++ ['/']).isEmpty || (t ++ ['/']).getLast? == some '/') = true := by simp
          rw [if_pos hlast, List.append_assoc]
          exact walk_concat_slash dir t path
        · have hlast : ¬ ((t ++ [c]).isEmpty || (t ++ [c]).getLast? == some '/') = true := by
            simp [hc]
          rw [if_neg hlast]
          exact walk_append_slash (by simp) dir path

/-! ## Walks and locations -/

namespace Location

/-- Where a location is, seen from a directory. -/
def seenFrom (l : Location) (dir : List Text) : List Text :=
  (if l.rooted then [] else dir.take (dir.length - l.climbs)) ++ l.names

theorem Moves.walkPiece_eq {piece : Text} {l l' : Location} (h : Moves piece l l')
    (dir : List Text) : walkPiece (l.seenFrom dir) piece = l'.seenFrom dir := by
  cases h with
  | empty => rfl
  | dot => rfl
  | down rooted climbs names hname =>
      simp [walkPiece, seenFrom, hname.ne_nil, hname.ne_dot, hname.ne_dots]
  | back rooted climbs names name => simp [walkPiece, seenFrom, ← List.append_assoc]
  | root climbs => rfl
  | climb climbs =>
      have hmin : min (dir.length - climbs) dir.length - 1 = dir.length - (climbs + 1) := by omega
      have hle : dir.length - (climbs + 1) ≤ dir.length - climbs := by omega
      show (dir.take (dir.length - climbs) ++ []).dropLast =
        dir.take (dir.length - (climbs + 1)) ++ []
      rw [List.append_nil, List.append_nil, List.dropLast_eq_take, List.length_take, hmin,
        List.take_take, Nat.min_eq_left hle]

theorem foldl_walkPiece_seenFrom {ps : List Text} (hps : ∀ p ∈ ps, '/' ∉ p) (l : Location)
    (dir : List Text) :
    ps.foldl walkPiece (l.seenFrom dir) = (ps.foldl step l).seenFrom dir := by
  induction ps generalizing l with
  | nil => rfl
  | cons p ps ih =>
      obtain ⟨hp, hrest⟩ := List.forall_mem_cons.mp hps
      rw [List.foldl_cons, List.foldl_cons, (moves_step hp l).walkPiece_eq, ih hrest]

theorem length_seenFrom (l : Location) (dir : List Text) :
    (l.seenFrom dir).length =
      (if l.rooted then 0 else dir.length - l.climbs) + l.names.length := by
  cases hroot : l.rooted <;> simp [seenFrom, hroot]

/-- Reduced locations that lead to one place from each directory are one. -/
theorem IsReduced.eq_of_seenFrom {l l' : Location} (h : l.IsReduced) (h' : l'.IsReduced)
    (hseen : ∀ n, l.seenFrom (List.replicate n ['a']) = l'.seenFrom (List.replicate n ['a'])) :
    l = l' := by
  -- from the root, only the names of a location are seen
  have hnames : l.names = l'.names := by simpa [seenFrom] using hseen 0
  -- far below the root, it is seen how many names of the directory are left
  have hleft : (if l.rooted then 0 else l'.climbs + 1) =
      if l'.rooted then 0 else l.climbs + 1 := by
    have hlengths := congrArg List.length (hseen (l.climbs + l'.climbs + 1))
    rw [length_seenFrom, length_seenFrom, List.length_replicate, hnames] at hlengths
    have hl : l.climbs + l'.climbs + 1 - l.climbs = l'.climbs + 1 := by omega
    have hl' : l.climbs + l'.climbs + 1 - l'.climbs = l.climbs + 1 := by omega
    rw [hl, hl'] at hlengths
    exact Nat.add_right_cancel hlengths
  obtain ⟨rooted, climbs, names⟩ := l
  obtain ⟨rooted', climbs', names'⟩ := l'
  obtain rfl : names = names' := hnames
  cases rooted with
  | true =>
      cases rooted' with
      | true =>
          obtain rfl : climbs = 0 := h.climbs_eq rfl
          obtain rfl : climbs' = 0 := h'.climbs_eq rfl
          rfl
      | false => cases hleft
  | false =>
      cases rooted' with
      | true => cases hleft
      | false =>
          obtain rfl : climbs' = climbs := Nat.succ.inj hleft
          rfl

end Location

theorem walk_eq_seenFrom (dir : List Text) (path : Text) :
    walk dir path = (Location.ofPath path).seenFrom dir := by
  have hstart : (if isAbsolutePath path = true then [] else dir) =
      Location.seenFrom ⟨isAbsolutePath path, 0, []⟩ dir := by simp [Location.seenFrom]
  rw [walk_eq, hstart]
  exact Location.foldl_walkPiece_seenFrom (fun _ hp => Text.not_mem_of_mem_pieces hp) _ dir

/-! ## Normal forms and walks -/

/-- The normal form of a path leads where the path leads. -/
theorem walk_normalizePath (dir : List Text) (path : Text) :
    walk dir (normalizePath path) = walk dir path := by
  rw [walk_eq_seenFrom, walk_eq_seenFrom, ofPath_normalizePath]

/-- Paths that lead to one place from each directory have one normal form. -/
theorem normalizePath_eq_of_walk_eq
    (h : ∀ dir, (∀ n ∈ dir, IsName n) → walk dir path = walk dir path') :
    normalizePath path = normalizePath path' := by
  have hname : IsName ['a'] := by decide
  have hseen : ∀ n, (Location.ofPath path).seenFrom (List.replicate n ['a']) =
      (Location.ofPath path').seenFrom (List.replicate n ['a']) := by
    intro n
    have hdir : ∀ m ∈ List.replicate n ['a'], IsName m := fun m hm =>
      List.eq_of_mem_replicate hm ▸ hname
    rw [← walk_eq_seenFrom, ← walk_eq_seenFrom, h _ hdir]
  have hreduced := Location.isReduced_ofPath path
  exact normalizePath_eq_iff_ofPath_eq.mpr
    (hreduced.eq_of_seenFrom (Location.isReduced_ofPath path') hseen)

/-- **Normal forms are canonical.** The normal form of a path leads where the path leads. It is
joined from names, behind a slash if the path is absolute and otherwise behind some steps up, and
ends with a slash only if it is the root. It is its own normal form, and paths have one normal form
if and only if they lead to one place from each directory. -/
theorem normalizePath_canonical (path : Text) :
    (∀ dir, walk dir (normalizePath path) = walk dir path) ∧
      (∃ names, (∀ n ∈ names, IsName n) ∧
        ((isAbsolutePath path = true ∧ normalizePath path = '/' :: join ['/'] names) ∨
          (isAbsolutePath path = false ∧ ∃ climbs,
            normalizePath path = join ['/'] (List.replicate climbs ['.', '.'] ++ names)))) ∧
      isAbsolutePath (normalizePath path) = isAbsolutePath path ∧
      ((normalizePath path).getLast? = some '/' → normalizePath path = ['/']) ∧
      normalizePath (normalizePath path) = normalizePath path ∧
      ∀ path', normalizePath path = normalizePath path' ↔
        ∀ dir, (∀ n ∈ dir, IsName n) → walk dir path = walk dir path' := by
  refine ⟨fun dir => walk_normalizePath dir path, normalizePath_form path,
    isAbsolutePath_normalizePath path, eq_root_of_getLast?_normalizePath, ?_, fun path' => ?_⟩
  · exact normalizePath_eq_of_walk_eq fun dir _ => walk_normalizePath dir path
  · constructor
    · intro h dir _
      calc walk dir path = walk dir (normalizePath path) := (walk_normalizePath dir path).symm
        _ = walk dir (normalizePath path') := by rw [h]
        _ = walk dir path' := walk_normalizePath dir path'
    · exact normalizePath_eq_of_walk_eq

example : normalizePath "./a//../../b/.".toList = "../b".toList := by decide

end StudioLookup
