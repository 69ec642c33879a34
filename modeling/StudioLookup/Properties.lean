import StudioLookup.Location

set_option autoImplicit false

/-! # The properties file

The build reads the version of the plugin and of the matching Studio release from a
properties file of fixed form. The module gives its text, and its place: beside the directory
of the tool that writes it.
-/

namespace StudioLookup

/-- A release of Studio, by the three parts of its download link. -/
structure Release where
  /-- The directory of the release, such as `3.4.0.13`. -/
  version : Text
  /-- The major version of the platform it is built on, such as `183`. -/
  ideaMajorVersion : Text
  /-- The number of the build, such as `5289776`. -/
  buildNumber : Text
  deriving DecidableEq, Repr

namespace Properties

/-- The lines above the version of the plugin. -/
def header : Text :=
  ("# WARNING: This file is automatically generated.\n" ++
    "# To update, use './development/update_studio_versions.py <agp_version>'\n" ++
    "# This file specifies the version of the Android Gradle Plugin and Android Studio " ++
    "to use.\n\n# Android Gradle Plugin version\n").toList

/-- The line between the version of the plugin and the release. -/
def releaseComment : Text :=
  "# Version properties for ./studiow, which correspond to the version of AGP\n".toList

/-- A line that gives a key its value. -/
def entry (key value : Text) : Text := key ++ '=' :: value ++ ['\n']

/-- The whole text of the file. -/
def render (version : Text) (release : Release) : Text :=
  header ++ entry "agp".toList version ++ releaseComment ++
    entry "studio_version".toList release.version ++
    entry "idea_major_version".toList release.ideaMajorVersion ++
    entry "studio_build_number".toList release.buildNumber

/-- The path of the file from the directory of the tool. -/
def relativePath : Text := "../buildSrc/studio_versions.properties".toList

/-- The path of the file for a tool in the given directory. -/
def pathBeside (toolDirectory : Text) : Text := resolvePath toolDirectory relativePath

end Properties

end StudioLookup
