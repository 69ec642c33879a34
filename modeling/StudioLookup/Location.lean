import StudioLookup.Text.Basic

set_option autoImplicit false

/-! # Locations in a tree of directories

A path is a text. It names a location by steps from a starting directory: the names between
its slashes, where an empty name and `.` stay in place and `..` goes up, and an absolute path,
one that begins with a slash, starts at the root.

`Location.ofPath` computes the location a path names from the text alone, without looking at
what the directories contain: a step up takes back the last step down. `resolve` uses it to
name a path as seen from a base directory.
-/

namespace StudioLookup

/-- Whether a path starts at the root. -/
def isAbsolutePath : Text → Bool
  | '/' :: _ => true
  | _ => false

/-- A path with another one appended to it. An absolute path replaces the first one. -/
def appendPath (base path : Text) : Text :=
  if isAbsolutePath path then path
  else if base.isEmpty || base.getLast? == some '/' then base ++ path
  else base ++ '/' :: path

/-- Where a path leads: from the root or from the starting directory, first some levels up,
then down by the given names. -/
structure Location where
  rooted : Bool
  climbs : Nat
  names : List Text
  deriving DecidableEq, Repr

namespace Location

/-- One step from a location. Above the root there is only the root. -/
def step (l : Location) (name : Text) : Location :=
  if name.isEmpty || name == ['.'] then l
  else if name == ['.', '.'] then
    if l.names.isEmpty then
      if l.rooted then l else { l with climbs := l.climbs + 1 }
    else { l with names := l.names.dropLast }
  else { l with names := l.names ++ [name] }

/-- The location a path names. -/
def ofPath (path : Text) : Location :=
  (Text.pieces '/' path).foldl step ⟨isAbsolutePath path, 0, []⟩

/-- The shortest path to a location. -/
def toPath (l : Location) : Text :=
  (if l.rooted then ['/'] else []) ++
    Text.join ['/'] (List.replicate l.climbs ['.', '.'] ++ l.names)

end Location

/-- The shortest path to where a path leads: no empty names, no `.`, and `..` only at the
beginning of a path that is not absolute. -/
def normalizePath (path : Text) : Text := (Location.ofPath path).toPath

/-- A path as seen from `base`, in its shortest form. An absolute path is left as it is. -/
def resolvePath (base path : Text) : Text :=
  if isAbsolutePath path then path else normalizePath (appendPath base path)

end StudioLookup
