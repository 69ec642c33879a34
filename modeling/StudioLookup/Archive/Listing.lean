import StudioLookup.Archive.Layout
import StudioLookup.Failure
import StudioLookup.Properties

set_option autoImplicit false

/-! # The list of releases

The lookup of a release in the page that lists them: `findRelease` takes the first place where
the name stands alone, and the first download link for Windows after it.
-/

namespace StudioLookup.Archive

/-- The release of the given name in a page. -/
def findRelease? (page name : Text) : Option Release :=
  match (releasePattern name).find? page with
  | some [version, idea, build] => some ⟨version, idea, build⟩
  | _ => none

/-- The failure to find a release. -/
def missingRelease (name : Text) : Failure :=
  .ofKind .notFound ("no download link for '".toList ++ name ++ "' in release list".toList)

/-- The release of the given name in a page, or the failure to find it. -/
def findRelease (page name : Text) : Except Failure Release :=
  match findRelease? page name with
  | some r => .ok r
  | none => .error (missingRelease name)

end StudioLookup.Archive
