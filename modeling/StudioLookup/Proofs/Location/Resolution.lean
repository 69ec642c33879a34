import StudioLookup.Properties
import StudioLookup.Proofs.Location.Walk

set_option autoImplicit false

/-! # Resolving a path

A relative path is resolved to the normal form of the base with the path appended to it, so what is
resolved is walked from where the base leads (`walk_resolvePath`). Normal forms are told apart by
their walks, which do not see what has been resolved before: resolving in two steps is resolving the
appended path at once (`resolvePath_resolvePath`), and a base or a path may be spelled in any way
that has the same normal form (`resolvePath_congr`).
-/

namespace StudioLookup

variable {base base' path path' : Text}

theorem resolvePath_of_isAbsolutePath (h : isAbsolutePath path = true) (base : Text) :
    resolvePath base path = path := by
  rw [resolvePath, if_pos h]

theorem resolvePath_of_not_isAbsolutePath (h : isAbsolutePath path = false) (base : Text) :
    resolvePath base path = normalizePath (appendPath base path) := by
  have hrel : ¬ isAbsolutePath path = true := by simp [h]
  rw [resolvePath, if_neg hrel]

theorem appendPath_of_isAbsolutePath (h : isAbsolutePath path = true) (base : Text) :
    appendPath base path = path := by
  rw [appendPath, if_pos h]

theorem isAbsolutePath_appendPath (h : isAbsolutePath path = false) (base : Text) :
    isAbsolutePath (appendPath base path) = isAbsolutePath base := by
  have hrel : ¬ isAbsolutePath path = true := by simp [h]
  rw [appendPath, if_neg hrel]
  cases base with
  | nil => exact h
  | cons c t =>
      split <;> by_cases hc : c = '/' <;> simp [isAbsolutePath, hc]

/-- A resolved path leads where the path leads from the base. -/
theorem walk_resolvePath (dir : List Text) (base path : Text) :
    walk dir (resolvePath base path) = walk (walk dir base) path := by
  cases h : isAbsolutePath path with
  | true =>
      rw [resolvePath_of_isAbsolutePath h]
      exact walk_of_isAbsolutePath h dir _
  | false => rw [resolvePath_of_not_isAbsolutePath h, walk_normalizePath, walk_appendPath]

/-- Resolving in two steps is resolving once. -/
theorem resolvePath_resolvePath (h : isAbsolutePath path = false) (base path' : Text) :
    resolvePath (resolvePath base path) path' = resolvePath base (appendPath path path') := by
  cases h' : isAbsolutePath path' with
  | true => rw [appendPath_of_isAbsolutePath h', resolvePath_of_isAbsolutePath h',
      resolvePath_of_isAbsolutePath h']
  | false =>
      have happend : isAbsolutePath (appendPath path path') = false := by
        rw [isAbsolutePath_appendPath h', h]
      rw [resolvePath_of_not_isAbsolutePath h', resolvePath_of_not_isAbsolutePath happend]
      refine normalizePath_eq_of_walk_eq fun dir _ => ?_
      calc walk dir (appendPath (resolvePath base path) path')
          = walk (walk dir (resolvePath base path)) path' := walk_appendPath dir _ path'
        _ = walk (walk (walk dir base) path) path' := by rw [walk_resolvePath]
        _ = walk (walk dir base) (appendPath path path') := (walk_appendPath _ path path').symm
        _ = walk dir (appendPath base (appendPath path path')) := (walk_appendPath dir base _).symm

theorem walk_congr (h : normalizePath path = normalizePath path') (dir : List Text) :
    walk dir path = walk dir path' := by
  rw [← walk_normalizePath, h, walk_normalizePath]

/-- How the base and a relative path are spelled does not matter. -/
theorem resolvePath_congr (hbase : normalizePath base = normalizePath base')
    (hpath : normalizePath path = normalizePath path') (h : isAbsolutePath path = false) :
    resolvePath base path = resolvePath base' path' := by
  have h' : isAbsolutePath path' = false := by
    rw [← isAbsolutePath_normalizePath, ← hpath, isAbsolutePath_normalizePath, h]
  rw [resolvePath_of_not_isAbsolutePath h, resolvePath_of_not_isAbsolutePath h']
  refine normalizePath_eq_of_walk_eq fun dir _ => ?_
  rw [walk_appendPath, walk_appendPath, walk_congr hbase, walk_congr hpath]

/-- **Resolving in two steps is resolving once.** A path resolved from where a relative path was
resolved is the appended path, resolved at once; if it is absolute, both are the path as it is. A
base or a relative path may be given in any spelling with the same normal form. In particular the
file beside a relative directory, which is resolved first, is found as if the whole path had been
resolved. -/
theorem resolvePath_in_two_steps (h : isAbsolutePath path = false) (base path' : Text) :
    resolvePath (resolvePath base path) path' = resolvePath base (appendPath path path') ∧
      (isAbsolutePath path' = true →
        resolvePath (resolvePath base path) path' = path' ∧
          resolvePath base (appendPath path path') = path') ∧
      (∀ base₁ path₁, normalizePath base = normalizePath base₁ →
        normalizePath path = normalizePath path₁ →
          resolvePath base path = resolvePath base₁ path₁) ∧
      Properties.pathBeside (resolvePath base path) =
        resolvePath base (appendPath path Properties.relativePath) := by
  refine ⟨resolvePath_resolvePath h base path', ?_, ?_, resolvePath_resolvePath h base _⟩
  · intro h'
    rw [appendPath_of_isAbsolutePath h']
    exact ⟨resolvePath_of_isAbsolutePath h' _, resolvePath_of_isAbsolutePath h' base⟩
  · intro base₁ path₁ hbase hpath
    exact resolvePath_congr hbase hpath h

theorem resolvePath_in_two_steps_aboveBase :
    isAbsolutePath "tools/./dev/".toList = false ∧
      resolvePath (resolvePath "repo".toList "tools/./dev/".toList) "../../../../out".toList =
        resolvePath "repo".toList
          (appendPath "tools/./dev/".toList "../../../../out".toList) ∧
      resolvePath "repo".toList (appendPath "tools/./dev/".toList "../../../../out".toList) =
        "../out".toList := by
  have h : isAbsolutePath "tools/./dev/".toList = false := by decide
  exact ⟨h, (resolvePath_in_two_steps h "repo".toList "../../../../out".toList).1, by decide⟩

end StudioLookup
