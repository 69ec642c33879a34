import StudioLookup.Failure

set_option autoImplicit false

/-! # Workspaces

What an update needs of the machine it runs on: a current directory, a way to ask whether a
path leads to something, and a way to write a file. A workspace is a value, and writing yields
the workspace after it, so that a refused write leaves nothing behind.
-/

namespace StudioLookup

/-- The operations of a workspace. -/
class Workspace (σ : Type) where
  /-- The path of the current directory. -/
  currentDirectory : σ → Except Failure Text
  /-- Whether something is found at a path. -/
  holds : σ → Text → Bool
  /-- Writes a text to a path, in place of what was there. -/
  write : σ → Text → Text → Except Failure σ

end StudioLookup
