import StudioLookup.Files.Store

set_option autoImplicit false

/-! # What happens to the files of a store

Putting a file sets its path and no other, removing one empties its path and no other, and a
write that is not refused is such a put (`write_eq_ok_iff`). What else may happen to a store does
not touch its files.
-/

namespace StudioLookup

/-- The entries without those under a key have an entry under another key where all entries have
it, and none under the key. -/
theorem find?_filter_key {κ α : Type} [BEq κ] [LawfulBEq κ] [DecidableEq κ]
    (entries : List (κ × α)) (key p : κ) :
    (entries.filter (·.1 != key)).find? (·.1 == p) =
      if p = key then none else entries.find? (·.1 == p) := by
  rw [List.find?_filter]
  by_cases hp : p = key
  · rw [if_pos hp, List.find?_eq_none]
    intro e _
    simp [hp]
  · -- an entry under `p` is not among those that are left out
    have htest : (fun e : κ × α => decide ((e.1 != key) = true ∧ (e.1 == p) = true)) =
        fun e => e.1 == p := by
      funext e
      by_cases he : e.1 = p
      · simp [he, hp]
      · simp [he]
    rw [if_neg hp, htest]

namespace Store

/-- Putting a file sets exactly its path. -/
theorem text?_put_eq (s : Store) (path text p : Text) :
    (s.put path text).text? p = if p = path then some text else s.text? p := by
  by_cases hp : p = path
  · rw [if_pos hp, hp, text?_put]
  · rw [if_neg hp, text?_put_of_ne s text hp]

theorem lookup_without {α : Type} (entries : List (Text × α)) (key p : Text) :
    lookup (without entries key) p = if p = key then none else lookup entries p := by
  unfold lookup without
  rw [find?_filter_key]
  by_cases hp : p = key
  · rw [if_pos hp, if_pos hp, Option.map_none]
  · rw [if_neg hp, if_neg hp]

/-- Removing a file empties exactly its path. -/
theorem text?_remove_eq (s : Store) (path p : Text) :
    (s.remove path).text? p = if p = path then none else s.text? p :=
  lookup_without s.files path p

/-- A write succeeds exactly on a path that is not protected, and then it puts the file. -/
theorem write_eq_ok_iff {s s' : Store} {path text : Text} :
    Workspace.write s path text = .ok s' ↔
      lookup s.refusals path = none ∧ s' = s.put path text := by
  show s.write path text = .ok s' ↔ _
  unfold write
  cases lookup s.refusals path with
  | none =>
      constructor
      · intro h
        exact ⟨rfl, (Except.ok.inj h).symm⟩
      · rintro ⟨-, rfl⟩
        rfl
  | some chain => simp

end Store

end StudioLookup
