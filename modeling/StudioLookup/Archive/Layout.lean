import StudioLookup.Text.Pattern

set_option autoImplicit false

/-! # The layout of the release archive

The archive is a page with a frame, and the frame holds the list of releases. The module
gives the address of the archive and the patterns by which the frame and a release are found,
so that a change of layout is a change here.
-/

namespace StudioLookup.Archive

/-- The address of the public archive. -/
def publicUrl : Text := "https://developer.android.com/studio/archive.html".toList

/-! ## The frame -/

/-- What stands before the source of a frame. -/
def frameOpening : Text := "iframe src=\x22".toList

/-- A frame with its source, which is closed on the same line. -/
def framePattern : Pattern :=
  ⟨none, [.literal frameOpening, .capture .inLine, .literal ['\x22']]⟩

/-! ## A release -/

/-- What may stand before the name of a release, so that `3.3.1` is not found in `13.3.1`. -/
def nameLeading : CharClass := .noDigitOrDot

/-- What must stand after the name of a release, so that `Canary 1` is not found in
`Canary 10`. -/
def nameTrailing : CharClass := .noDigit

/-- What a download link begins with. -/
def linkOpening : Text := "https://dl.google.com/dl/android/studio/ide-zips/".toList

/-- What stands between the version and the platform version of a download link. -/
def linkProduct : Text := "/android-studio-ide-".toList

/-- What a download link for Windows ends with. -/
def linkEnding : Text := "-windows.zip".toList

/-- A download link for Windows, after any text. The three captured gaps are the version of
the release, the version of its platform and the number of the build. -/
def linkParts : List Part :=
  [.gap .everything, .literal linkOpening, .capture .inLine, .literal linkProduct,
    .capture .inLine, .literal ['.'], .capture .inLine, .literal linkEnding]

/-- A release: its name, standing alone, and the first download link for Windows after it. -/
def releasePattern (name : Text) : Pattern :=
  ⟨some nameLeading, .literal name :: .one nameTrailing :: linkParts⟩

end StudioLookup.Archive
