import StudioLookup.Archive.Frame
import StudioLookup.Archive.Listing
import StudioLookup.Web.Client

set_option autoImplicit false

/-! # The lookup in the archive

A lookup takes two hops: the archive page gives the URL of its frame, and the page in the frame
lists the releases.
-/

namespace StudioLookup.Archive

open Web

/-- The first hop: the URL of the frame in the archive page. -/
def fetchFrameUrl (net : Network) (agent : Option Text) (archiveUrl : Text) : Exchange Text :=
  (getText net agent archiveUrl).andThen fun page => .done (frameUrl page archiveUrl)

/-- The second hop: the release of the given name in the page of the frame. -/
def fetchRelease (net : Network) (agent : Option Text) (frame name : Text) :
    Exchange Release :=
  (getText net agent frame).andThen fun page => .done (findRelease page name)

/-- Both hops. -/
def lookUp (net : Network) (agent : Option Text) (archiveUrl name : Text) : Exchange Release :=
  (fetchFrameUrl net agent archiveUrl).andThen fun frame => fetchRelease net agent frame name

end StudioLookup.Archive
