import StudioLookup.Properties
import StudioLookup.Proofs.Archive.Link
import StudioLookup.Proofs.Text.Lines
import StudioLookup.Proofs.Version.Words

set_option autoImplicit false

/-! # Reading the properties file back

A reader of properties takes the lines of a text that are neither empty nor a comment, and splits
each at its first `=`. What it reads in the rendered file are the four pairs of the version and the
release (`read?_render`), as long as none of the four values holds a line feed: no other character
of a value can end its line or change its key. The values that are looked up are such values, the
version because of its grammar (`IsPlainVersion.not_mem_lineFeed`) and the parts of the release
because a link stands on one line (`onOneLine_of_findRelease`). So no page can put a key into the
file, take one out or change the value of another (`render_readsBack`).
-/

namespace StudioLookup.Properties

/-! ## A reader -/

/-- A line with a key and a value, split at the first `=`. -/
def keyValue? (line : Text) : Option (Text × Text) :=
  match line.dropWhile (· != '=') with
  | [] => none
  | _ :: value => some (line.takeWhile (· != '='), value)

/-- Whether a line is neither empty nor a comment. -/
def isEntryLine (line : Text) : Bool := !line.isEmpty && line.head? != some '#'

/-- The keys and values of a text of properties, in order. -/
def read? (t : Text) : Option (List (Text × Text)) :=
  ((Text.pieces '\n' t).filter isEntryLine).mapM keyValue?

/-- The line that gives a key its value. -/
def entryLine (key value : Text) : Text := key ++ '=' :: value

theorem keyValue?_entryLine {key : Text} (value : Text) (h : '=' ∉ key) :
    keyValue? (entryLine key value) = some (key, value) := by
  have hkey : ∀ c ∈ key, (c != '=') = true := by
    intro c hc
    rw [bne_iff_ne]
    rintro rfl
    exact h hc
  rw [keyValue?, entryLine, List.dropWhile_append_of_pos hkey, List.takeWhile_append_of_pos hkey]
  simp

/-- Whatever the values are, keys without `=` are read back with them. -/
theorem mapM_keyValue?_entryLines {ps : List (Text × Text)} (h : ∀ p ∈ ps, '=' ∉ p.1) :
    (ps.map fun p => entryLine p.1 p.2).mapM keyValue? = some ps := by
  induction ps with
  | nil => rfl
  | cons p ps ih =>
      have hp : '=' ∉ p.1 := h p List.mem_cons_self
      have hps : ∀ q ∈ ps, '=' ∉ q.1 := fun q hq => h q (List.mem_cons_of_mem p hq)
      rw [List.map_cons, List.mapM_cons, keyValue?_entryLine p.2 hp, ih hps]
      rfl

theorem read?_unlines {ls : List Text} (h : ∀ l ∈ ls, '\n' ∉ l) :
    read? (Text.unlines ls) = (ls.filter isEntryLine).mapM keyValue? := by
  rw [read?, Text.pieces_unlines h, List.filter_append]
  simp [isEntryLine]

/-! ## The lines of the file -/

/-- The pairs that the file is about. -/
def pairs (version : Text) (release : Release) : List (Text × Text) :=
  [("agp".toList, version), ("studio_version".toList, release.version),
    ("idea_major_version".toList, release.ideaMajorVersion),
    ("studio_build_number".toList, release.buildNumber)]

theorem pairs_injective {version version' : Text} {release release' : Release}
    (h : pairs version release = pairs version' release') :
    version = version' ∧ release = release' := by
  cases release
  cases release'
  simpa [pairs] using h

/-- The lines above the version of the plugin. -/
def headerLines : List Text :=
  ["# WARNING: This file is automatically generated.".toList,
    "# To update, use './development/update_studio_versions.py <agp_version>'".toList,
    "# This file specifies the version of the Android Gradle Plugin and Android Studio ".toList ++
      "to use.".toList, [], "# Android Gradle Plugin version".toList]

/-- The line between the version of the plugin and the release. -/
def releaseCommentLine : Text :=
  "# Version properties for ./studiow, which correspond to the version of AGP".toList

/-- The lines of the file. -/
def fileLines (version : Text) (release : Release) : List Text :=
  headerLines ++ [entryLine "agp".toList version, releaseCommentLine,
    entryLine "studio_version".toList release.version,
    entryLine "idea_major_version".toList release.ideaMajorVersion,
    entryLine "studio_build_number".toList release.buildNumber]

/-! The literals of the file are long, so they are turned into lists of characters by
`String.toList_ofList` and not by evaluation, which would decode them from bytes. -/

theorem header_eq_unlines : header = Text.unlines headerLines := by
  have happend : ∀ a b c d : String,
      (a ++ b ++ c ++ d).toList = a.toList ++ b.toList ++ c.toList ++ d.toList := by
    intro a b c d
    rw [String.toList_append, String.toList_append, String.toList_append]
  unfold header headerLines
  rw [happend]
  iterate 8 rw [String.toList_ofList]
  decide +kernel

theorem releaseComment_eq_append : releaseComment = releaseCommentLine ++ ['\n'] := by
  unfold releaseComment releaseCommentLine
  rw [String.toList_ofList, String.toList_ofList]
  rfl

theorem render_eq_unlines (version : Text) (release : Release) :
    render version release = Text.unlines (fileLines version release) := by
  rw [render, fileLines, Text.unlines_append, ← header_eq_unlines, releaseComment_eq_append]
  simp only [Text.unlines_cons, Text.unlines_nil, entry, entryLine, List.append_assoc,
    List.cons_append, List.nil_append]

theorem head?_render (version : Text) (release : Release) :
    (render version release).head? = some '#' := by
  rw [render_eq_unlines, fileLines]
  unfold headerLines
  iterate 5 rw [String.toList_ofList]
  rfl

theorem filter_headerLines : headerLines.filter isEntryLine = [] := by
  unfold headerLines
  iterate 5 rw [String.toList_ofList]
  rfl

theorem not_mem_lineFeed_of_mem_headerLines : ∀ l ∈ headerLines, '\n' ∉ l := by
  unfold headerLines
  iterate 5 rw [String.toList_ofList]
  decide

theorem not_mem_lineFeed_releaseCommentLine : '\n' ∉ releaseCommentLine := by
  unfold releaseCommentLine
  rw [String.toList_ofList]
  decide

theorem isEntryLine_releaseCommentLine : isEntryLine releaseCommentLine = false := by
  unfold releaseCommentLine
  rw [String.toList_ofList]
  rfl

/-- The lines that are read are those with the four keys, whatever their values. -/
theorem filter_fileLines (version : Text) (release : Release) :
    (fileLines version release).filter isEntryLine =
      (pairs version release).map fun p => entryLine p.1 p.2 := by
  rw [fileLines, List.filter_append, filter_headerLines, List.nil_append,
    List.filter_cons_of_pos rfl, List.filter_cons_of_neg (by simp [isEntryLine_releaseCommentLine])]
  rfl

/-! ## Reading the file -/

/-- No value goes on over a line feed. -/
def OnOneLine (version : Text) (release : Release) : Prop :=
  '\n' ∉ version ∧ release.OnOneLine

theorem not_mem_lineFeed_of_mem_fileLines {version : Text} {release : Release}
    (h : OnOneLine version release) : ∀ l ∈ fileLines version release, '\n' ∉ l := by
  obtain ⟨hversion, hv, hi, hb⟩ := h
  have hentry : ∀ {key value : Text}, '\n' ∉ key → '\n' ∉ value → '\n' ∉ entryLine key value := by
    intro key value hkey hvalue
    simp [entryLine, hkey, hvalue]
  intro l hl
  rw [fileLines, List.mem_append] at hl
  rcases hl with hl | hl
  · exact not_mem_lineFeed_of_mem_headerLines l hl
  · simp only [List.mem_cons, List.not_mem_nil, or_false] at hl
    rcases hl with rfl | rfl | rfl | rfl | rfl
    · exact hentry (by decide) hversion
    · exact not_mem_lineFeed_releaseCommentLine
    · exact hentry (by decide) hv
    · exact hentry (by decide) hi
    · exact hentry (by decide) hb

/-- **Reading back.** A reader finds the four pairs that were rendered, and nothing else. -/
theorem read?_render {version : Text} {release : Release} (h : OnOneLine version release) :
    read? (render version release) = some (pairs version release) := by
  have hkeys : ∀ p ∈ pairs version release, '=' ∉ p.1 := by
    intro p hp
    simp only [pairs, List.mem_cons, List.not_mem_nil, or_false] at hp
    rcases hp with rfl | rfl | rfl | rfl <;> dsimp only <;> decide
  rw [render_eq_unlines, read?_unlines (not_mem_lineFeed_of_mem_fileLines h), filter_fileLines]
  exact mapM_keyValue?_entryLines hkeys

/-! ## Values that are looked up -/

/-- A version of which a release can be looked up: it has a release name, and its stage, if it has
one, is made of letters and digits. -/
def IsPlainVersion (version : Text) : Prop :=
  (∃ name, releaseName version = .ok name) ∧ ('-' ∉ version ∨ HasPlainStage version)

theorem IsPlainVersion.not_mem_lineFeed {version : Text} (h : IsPlainVersion version) :
    '\n' ∉ version := by
  have hnumbers : ∀ {t : Text}, Version.isNumbered t = true → '\n' ∉ t := by
    intro t ht hmem
    rcases Version.isDigit_or_eq_dot_of_isNumbered ht hmem with hdigit | hdot
    · exact absurd hdigit (by decide)
    · exact absurd hdot (by decide)
  obtain ⟨⟨name, hname⟩, hstable | ⟨numbers, stage, rfl, hstage⟩⟩ := h
  · exact hnumbers (isNumbered_of_releaseName hname hstable)
  · obtain ⟨-, -, hnumbered, -, -⟩ := readPrerelease_of_releaseName hname hstage
    have hplain : '\n' ∉ stage := fun hmem => absurd (hstage _ hmem) (by decide)
    simp [hnumbers hnumbered, hplain]

theorem onOneLine_of_findRelease {page name : Text} {release : Release}
    (h : Archive.findRelease page name = .ok release) : release.OnOneLine := by
  obtain ⟨_, _, _, ⟨_, _, _, _, _, hline⟩, -⟩ :=
    Archive.findRelease?_eq_some_iff.mp (Archive.findRelease_eq_ok_iff.mp h)
  exact hline

/-- **The properties file reads back as what was looked up.** The file for a version and for a
release that was found on any page has ten lines, a reader finds in it the four pairs of the version
and the release, in this order, and no other version or release gives the same file. -/
theorem render_readsBack {version page name : Text} {release : Release}
    (hversion : IsPlainVersion version) (hfound : Archive.findRelease page name = .ok release) :
    read? (render version release) = some (pairs version release) ∧
      (∃ ls : List Text, ls.length = 10 ∧ (∀ l ∈ ls, '\n' ∉ l) ∧
        render version release = Text.unlines ls) ∧
      ∀ version' page' name' release', IsPlainVersion version' →
        Archive.findRelease page' name' = .ok release' →
        render version' release' = render version release →
          version' = version ∧ release' = release := by
  have hline : OnOneLine version release :=
    ⟨hversion.not_mem_lineFeed, onOneLine_of_findRelease hfound⟩
  refine ⟨read?_render hline, ⟨fileLines version release, rfl,
    not_mem_lineFeed_of_mem_fileLines hline, render_eq_unlines version release⟩, ?_⟩
  intro version' page' name' release' hversion' hfound' hsame
  have hline' : OnOneLine version' release' :=
    ⟨hversion'.not_mem_lineFeed, onOneLine_of_findRelease hfound'⟩
  have hread : some (pairs version' release') = some (pairs version release) := by
    rw [← read?_render hline', ← read?_render hline, hsame]
  exact pairs_injective (Option.some.inj hread)

/-- A page whose link has a key, a `#` and a `=` in each of its parts. -/
def strangePage : Text :=
  ("3.3.1 https://dl.google.com/dl/android/studio/ide-zips/agp=#1/android-studio-ide-" ++
    "#agp=2.studio_version=3=#-windows.zip").toList

/-- What the link is read as. -/
def strangeRelease : Release := ⟨"agp=#1".toList, "#agp=2".toList, "studio_version=3=#".toList⟩

theorem render_readsBack_strangePage :
    read? (render "3.3.1".toList strangeRelease) = some (pairs "3.3.1".toList strangeRelease) := by
  have hversion : IsPlainVersion "3.3.1".toList :=
    ⟨⟨"3.3.1".toList, by rfl⟩, Or.inl (by decide)⟩
  have hfind : Archive.findRelease? strangePage "3.3.1".toList = some strangeRelease := by
    decide +kernel
  exact (render_readsBack hversion (Archive.findRelease_eq_ok_iff.mpr hfind)).1

end StudioLookup.Properties
