import StudioLookup.Archive.Layout
import StudioLookup.Failure
import StudioLookup.Text.Quoted
import StudioLookup.Url.Reading

set_option autoImplicit false

/-! # The frame of the archive page

The archive page shows the list of releases in a frame. `frameUrl` finds the source of the
first frame that is closed on its line, undoes the escaping of ampersands, and resolves it
against the URL of the page.
-/

namespace StudioLookup.Archive

/-- An ampersand as it stands in a page. -/
def escapedAmpersand : Text := "&amp;".toList

/-- The source of the first frame in a page, with its ampersands. -/
def frameSource? (page : Text) : Option Text :=
  match framePattern.find? page with
  | some [source] => some (Text.replaceAll escapedAmpersand ['&'] source)
  | _ => none

/-- The failure to find a frame in the page at `url`. -/
def missingFrame (url : Text) : Failure :=
  .ofKind .notFound ("no iframe in archive page ".toList ++ url)

/-- The failure to read the URL of the page. -/
def badArchiveUrl (url : Text) (e : UrlFault) : Failure :=
  (Failure.plain e.message).withNote ("Invalid archive URL ".toList ++ url)

/-- The failure to read the source of a frame as a URL. -/
def badFrameSource (source : Text) (e : UrlFault) : Failure :=
  .ofKind .notFound
    ("iframe source ".toList ++ Text.quoted source ++ " is not a valid URL: ".toList ++ e.message)

/-- The URL of the first frame in a page that was asked for by the text `url`. A page without
a frame is reported before an unreadable URL. -/
def frameUrl (page url : Text) : Except Failure Text :=
  match frameSource? page with
  | none => .error (missingFrame url)
  | some source =>
      match Url.read url with
      | .error e => .error (badArchiveUrl url e)
      | .ok base =>
          match base.join source with
          | .error e => .error (badFrameSource source e)
          | .ok u => .ok u.toText

end StudioLookup.Archive
