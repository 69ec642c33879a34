import StudioLookup.Files.Tree
import StudioLookup.Proofs.Files.Store

set_option autoImplicit false

/-! # What a write does to a tree

A path leads to a file by a walk through directories and a last name (`target_eq_ok_iff`). A write
sets the file at these names and nothing else (`node?_set`). Since it never sets a directory, no
walk that came through before is stopped by it (`walk_set`), so that after the write the path still
leads to the file that was written (`target_set`). Together this is `differsAt_of_write`.
-/

namespace StudioLookup.Tree

variable {t t' : Tree} {s s' : Standpoint} {path text name : Text} {names : List Text}

/-- Setting a node sets exactly the node at its names. -/
theorem node?_set (hnames : names ≠ []) (n : TreeNode) (p : List Text) :
    (t.set names n).node? p = if p = names then some n else t.node? p := by
  unfold node? set
  by_cases hp : p = names
  · subst hp
    simp [hnames]
  · have hother : (names == p) = false := by simp [Ne.symm hp]
    rw [if_neg hp]
    simp only [List.find?_cons, hother, find?_filter_key, if_neg hp]

/-! ## What a path leads to -/

theorem entry_eq_ok_iff {n : TreeNode} :
    t.entry s name = .ok n ↔
      s.lost = 0 ∧ Text.byteCount name ≤ longestName ∧ t.node? (s.names ++ [name]) = some n := by
  unfold entry
  by_cases hlost : s.lost = 0
  · by_cases hlong : longestName < Text.byteCount name
    · have hshort : ¬ Text.byteCount name ≤ longestName := by omega
      simp [hlost, hlong, hshort]
    · have hshort : Text.byteCount name ≤ longestName := by omega
      cases hnode : t.node? (s.names ++ [name]) with
      | none => simp [hlost, hlong]
      | some n' => simp [hlost, hlong, hshort]
  · simp [hlost]

theorem entry_eq_noSuchEntry_iff (hlost : s.lost = 0) :
    t.entry s name = .error .noSuchEntry ↔
      Text.byteCount name ≤ longestName ∧ t.node? (s.names ++ [name]) = none := by
  unfold entry
  by_cases hlong : longestName < Text.byteCount name
  · have hshort : ¬ Text.byteCount name ≤ longestName := by omega
    simp [hlost, hlong, hshort]
  · have hshort : Text.byteCount name ≤ longestName := by omega
    cases hnode : t.node? (s.names ++ [name]) with
    | none => simp [hlost, hlong, hshort]
    | some n' => simp [hlost, hlong]

/-- A path leads to a file, which is there or can be made, by a directory and a last name. -/
theorem target_eq_ok_iff :
    t.target path = .ok names ↔
      ∃ s name, t.approach path = .ok (s, some name) ∧ isDots name = false ∧
        endsInSlash path = false ∧ s.lost = 0 ∧ Text.byteCount name ≤ longestName ∧
        t.node? (s.names ++ [name]) ≠ some .directory ∧ names = s.names ++ [name] := by
  constructor
  · intro h
    unfold target at h
    split at h
    · cases h
    · cases h
    · rename_i s name happroach
      by_cases hdirectory : (isDots name || endsInSlash path) = true
      · rw [if_pos hdirectory] at h
        cases h
      · rw [if_neg hdirectory] at h
        obtain ⟨hdots, hslash⟩ : isDots name = false ∧ endsInSlash path = false := by
          simpa using hdirectory
        split at h
        · cases h
        · rename_i text hentry
          obtain ⟨hlost, hshort, hnode⟩ := entry_eq_ok_iff.mp hentry
          exact ⟨s, name, happroach, hdots, hslash, hlost, hshort, by simp [hnode],
            (Except.ok.inj h).symm⟩
        · rename_i hentry
          by_cases hlost : s.lost = 0
          · rw [if_pos hlost] at h
            obtain ⟨hshort, hnode⟩ := (entry_eq_noSuchEntry_iff hlost).mp hentry
            exact ⟨s, name, happroach, hdots, hslash, hlost, hshort, by simp [hnode],
              (Except.ok.inj h).symm⟩
          · rw [if_neg hlost] at h
            cases h
        · cases h
  · rintro ⟨s, name, happroach, hdots, hslash, hlost, hshort, hnode, rfl⟩
    unfold target
    rw [happroach]
    simp only [hdots, hslash, Bool.or_self, Bool.false_eq_true, if_false]
    cases hthere : t.node? (s.names ++ [name]) with
    | none =>
        rw [(entry_eq_noSuchEntry_iff hlost).mpr ⟨hshort, hthere⟩]
        exact if_pos hlost
    | some n =>
        rw [entry_eq_ok_iff.mpr ⟨hlost, hshort, hthere⟩]
        cases n with
        | file text => rfl
        | directory => exact absurd hthere hnode

/-! ## Walking after a file is set -/

theorem ne_nil_of_not_directory (hnames : t.node? names ≠ some .directory) : names ≠ [] := by
  rintro rfl
  exact hnames rfl

/-- A directory that is entered is still there after a file is set elsewhere. -/
theorem enter_set (hnames : t.node? names ≠ some .directory) (h : t.enter s name = .ok s') :
    (t.set names (.file text)).enter s name = .ok s' := by
  unfold enter at h ⊢
  by_cases hdot : (name == ['.']) = true
  · rw [if_pos hdot] at h ⊢
    exact h
  · rw [if_neg hdot] at h ⊢
    by_cases hdots : (name == ['.', '.']) = true
    · rw [if_pos hdots] at h ⊢
      exact h
    · rw [if_neg hdots] at h ⊢
      split at h
      · rename_i hentry
        obtain ⟨hlost, hshort, hnode⟩ := entry_eq_ok_iff.mp hentry
        have hother : s.names ++ [name] ≠ names := fun heq => hnames (heq ▸ hnode)
        have hnode' : (t.set names (.file text)).node? (s.names ++ [name]) = some .directory := by
          rw [node?_set (ne_nil_of_not_directory hnames), if_neg hother, hnode]
        rw [entry_eq_ok_iff.mpr ⟨hlost, hshort, hnode'⟩]
        exact h
      · cases h
      · cases h

theorem walk_set (hnames : t.node? names ≠ some .directory) {way : List Text}
    (h : t.walk s way = .ok s') : (t.set names (.file text)).walk s way = .ok s' := by
  induction way generalizing s with
  | nil => exact h
  | cons name way ih =>
      unfold walk at h ⊢
      cases henter : t.enter s name with
      | error e =>
          rw [henter] at h
          cases h
      | ok s'' =>
          rw [henter] at h
          rw [enter_set hnames henter]
          exact ih h

theorem approach_set (hnames : t.node? names ≠ some .directory) {last : Option Text}
    (h : t.approach path = .ok (s, last)) :
    (t.set names (.file text)).approach path = .ok (s, last) := by
  unfold approach at h ⊢
  split at h
  · cases h
  · split at h
    · rename_i s'' hwalk
      have hwalk' : (t.set names (.file text)).walk ((t.set names (.file text)).origin path)
          (namesOf path).dropLast = .ok s'' := walk_set hnames hwalk
      rw [hwalk']
      exact h
    · cases h

/-- The path that led to the file before it was set leads to it afterwards. -/
theorem target_set (h : t.target path = .ok names) :
    (t.set names (.file text)).target path = .ok names := by
  obtain ⟨s, name, happroach, hdots, hslash, hlost, hshort, hnode, rfl⟩ := target_eq_ok_iff.mp h
  have hfile : (t.set (s.names ++ [name]) (.file text)).node? (s.names ++ [name]) =
      some (.file text) := by
    rw [node?_set (ne_nil_of_not_directory hnode), if_pos rfl]
  exact target_eq_ok_iff.mpr ⟨s, name, approach_set hnode happroach, hdots, hslash, hlost, hshort,
    by simp [hfile], rfl⟩

/-! ## Writing -/

/-- The path leads to a file with the text in `t'`, and this file is all in which `t'` may differ
from `t`. -/
def DiffersAt (t : Tree) (path text : Text) (t' : Tree) : Prop :=
  ∃ names, t.target path = .ok names ∧ t'.target path = .ok names ∧
    t'.standpoint = t.standpoint ∧
    ∀ p, t'.node? p = if p = names then some (.file text) else t.node? p

/-- **A write changes one file.** -/
theorem differsAt_of_write (h : Workspace.write t path text = .ok t') :
    DiffersAt t path text t' := by
  have hwrite : t.write path text = .ok t' := h
  unfold write at hwrite
  split at hwrite
  · rename_i names htarget
    obtain ⟨s, name, -, -, -, -, -, hnode, rfl⟩ := target_eq_ok_iff.mp htarget
    cases hwrite
    exact ⟨_, htarget, target_set htarget, rfl, node?_set (ne_nil_of_not_directory hnode) _⟩
  · cases hwrite

end StudioLookup.Tree
