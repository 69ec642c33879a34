import StudioLookup.Proofs.Location.Resolution
import StudioLookup.Proofs.Update.Stages

set_option autoImplicit false

/-! # The path of the file

The options give the path of the file in three ways, and each takes its own route through the
functions on paths. All routes end in a plain path: an absolute one in which nothing can be left
out (`IsPlainPath`). There is one plain path to each place (`IsPlainPath.eq_of_walk_eq`), and so it
is enough to know where a route leads, whatever the spelling of the options. Only an absolute
`output` is not touched (`outputPath_of_options`).
-/

namespace StudioLookup

open Text (join pieces)

/-! ## Plain paths -/

/-- An absolute path without `.`, without `..` and without repeated or trailing slashes. The root is
plain as well. -/
def IsPlainPath (path : Text) : Prop :=
  path = ['/'] ∨ ∃ rest, path = '/' :: rest ∧ ∀ piece ∈ pieces '/' rest, IsName piece

variable {path path' cwd : Text}

theorem isPlainPath_iff :
    IsPlainPath path ↔ ∃ names, (∀ n ∈ names, IsName n) ∧ path = '/' :: join ['/'] names := by
  constructor
  · rintro (rfl | ⟨rest, rfl, hrest⟩)
    · exact ⟨[], by simp, rfl⟩
    · exact ⟨pieces '/' rest, hrest, by rw [Text.join_pieces]⟩
  · rintro ⟨names, hnames, rfl⟩
    cases names with
    | nil => exact Or.inl rfl
    | cons n names =>
        have hpieces : pieces '/' (join ['/'] (n :: names)) = n :: names :=
          Text.pieces_join (List.cons_ne_nil n names) fun m hm => (hnames m hm).slash_not_mem
        exact Or.inr ⟨_, rfl, by rwa [hpieces]⟩

/-- The path that is joined from names leads down by them, and from everywhere. -/
theorem walk_slash_join {names : List Text} (h : ∀ n ∈ names, IsName n) (dir : List Text) :
    walk dir ('/' :: join ['/'] names) = names := by
  have hreduced : Location.IsReduced ⟨true, 0, names⟩ := ⟨h, fun _ => rfl⟩
  have hpath : '/' :: join ['/'] names = Location.toPath ⟨true, 0, names⟩ := rfl
  rw [hpath, walk_eq_seenFrom, Location.ofPath_toPath hreduced]
  rfl

/-- A plain path can be read off its walk. -/
theorem IsPlainPath.eq_slash_join (h : IsPlainPath path) :
    path = '/' :: join ['/'] (walk [] path) := by
  obtain ⟨names, hnames, rfl⟩ := isPlainPath_iff.mp h
  rw [walk_slash_join hnames]

/-- There is one plain path to each place. -/
theorem IsPlainPath.eq_of_walk_eq (h : IsPlainPath path) (h' : IsPlainPath path')
    (hwalk : walk [] path = walk [] path') : path = path' :=
  calc path = '/' :: join ['/'] (walk [] path) := h.eq_slash_join
    _ = '/' :: join ['/'] (walk [] path') := by rw [hwalk]
    _ = path' := h'.eq_slash_join.symm

theorem isPlainPath_normalizePath (h : isAbsolutePath path = true) :
    IsPlainPath (normalizePath path) := by
  obtain ⟨names, hnames, ⟨-, hform⟩ | ⟨hrel, -⟩⟩ := normalizePath_form path
  · exact isPlainPath_iff.mpr ⟨names, hnames, hform⟩
  · rw [h] at hrel
    cases hrel

/-! ## From an absolute directory -/

theorem isAbsolutePath_resolvePath (h : isAbsolutePath cwd = true) (path : Text) :
    isAbsolutePath (resolvePath cwd path) = true := by
  cases hpath : isAbsolutePath path with
  | true => rw [resolvePath_of_isAbsolutePath hpath, hpath]
  | false => rw [resolvePath_of_not_isAbsolutePath hpath, isAbsolutePath_normalizePath,
      isAbsolutePath_appendPath hpath, h]

/-- A relative path is resolved to the plain path to where it leads. -/
theorem isPlainPath_resolvePath (h : isAbsolutePath cwd = true)
    (hpath : isAbsolutePath path = false) : IsPlainPath (resolvePath cwd path) := by
  rw [resolvePath_of_not_isAbsolutePath hpath]
  apply isPlainPath_normalizePath
  rw [isAbsolutePath_appendPath hpath, h]

/-- The directory of the file and its name, beside a directory. -/
theorem walk_relativePath (dir : List Text) :
    walk dir Properties.relativePath =
      dir.dropLast ++ ["buildSrc".toList, "studio_versions.properties".toList] := by
  have hpieces : pieces '/' Properties.relativePath =
      [['.', '.'], "buildSrc".toList, "studio_versions.properties".toList] := by decide
  rw [walk_of_not_isAbsolutePath rfl, hpieces]
  simp [walkPiece]

theorem isPlainPath_pathBeside (h : isAbsolutePath path = true) :
    IsPlainPath (Properties.pathBeside path) :=
  isPlainPath_resolvePath h rfl

theorem walk_pathBeside (dir : List Text) (path : Text) :
    walk dir (Properties.pathBeside path) =
      (walk dir path).dropLast ++ ["buildSrc".toList, "studio_versions.properties".toList] := by
  rw [Properties.pathBeside, walk_resolvePath, walk_relativePath]

/-! ## The options -/

variable {o : Options}

theorem outputPathFrom_of_output {output : Text} (h : o.output = some output) (cwd : Text) :
    outputPathFrom cwd o = resolvePath cwd output := by
  rw [outputPathFrom, h]

/-- Without an output, the path is plain and leads to the file beside the directory of the tool. -/
theorem outputPathFrom_of_no_output (hcwd : isAbsolutePath cwd = true) (h : o.output = none) :
    IsPlainPath (outputPathFrom cwd o) ∧ walk [] (outputPathFrom cwd o) =
      (walk (walk [] cwd) (o.toolDirectory.getD defaultToolDirectory)).dropLast ++
        ["buildSrc".toList, "studio_versions.properties".toList] := by
  rw [outputPathFrom, h]
  cases o.toolDirectory with
  | some dir =>
      refine ⟨isPlainPath_pathBeside (isAbsolutePath_resolvePath hcwd dir), ?_⟩
      rw [walk_pathBeside, walk_resolvePath, Option.getD_some]
  | none =>
      have habs : isAbsolutePath (appendPath cwd defaultToolDirectory) = true := by
        rw [isAbsolutePath_appendPath rfl, hcwd]
      refine ⟨isPlainPath_pathBeside habs, ?_⟩
      rw [walk_pathBeside, walk_appendPath, Option.getD_none]

/-- Directories of the tool that lead to one place give one path. -/
theorem outputPathFrom_congr (hcwd : isAbsolutePath cwd = true) (h : o.output = none)
    (dir dir' : Option Text)
    (hwalk : walk (walk [] cwd) (dir.getD defaultToolDirectory) =
      walk (walk [] cwd) (dir'.getD defaultToolDirectory)) :
    outputPathFrom cwd { o with toolDirectory := dir } =
      outputPathFrom cwd { o with toolDirectory := dir' } := by
  obtain ⟨hplain, hpath⟩ :=
    outputPathFrom_of_no_output (o := { o with toolDirectory := dir }) hcwd h
  obtain ⟨hplain', hpath'⟩ :=
    outputPathFrom_of_no_output (o := { o with toolDirectory := dir' }) hcwd h
  exact hplain.eq_of_walk_eq hplain' (by rw [hpath, hpath', hwalk])

section

variable {σ : Type} [Workspace σ] {s : σ}

/-- **The path of the file, for every spelling of the options.** The current directory is absolute.
A given output is taken as it is if it is absolute, and else is resolved to the one plain path to
where it leads from the current directory, whatever the directory of the tool. Without an output,
the path is plain and leads to the file in the sibling of the directory of the tool, the root being
its own parent. Leaving the directory of the tool out is giving `development`, and spellings of it
that lead to one place give one path. -/
theorem outputPath_of_options (hcwd : Workspace.currentDirectory s = .ok cwd)
    (habs : isAbsolutePath cwd = true) (o : Options) :
    (∀ output, o.output = some output →
      (∀ dir, outputPath s { o with toolDirectory := dir } = outputPath s o) ∧
        (isAbsolutePath output = true → outputPath s o = .ok output) ∧
        (isAbsolutePath output = false →
          ∃ path, outputPath s o = .ok path ∧ IsPlainPath path ∧
            walk [] path = walk (walk [] cwd) output ∧
            ∀ path', IsPlainPath path' → walk [] path' = walk (walk [] cwd) output →
              path' = path)) ∧
      (o.output = none →
        (∃ path, outputPath s o = .ok path ∧ IsPlainPath path ∧
          path = '/' :: join ['/']
            ((walk (walk [] cwd) (o.toolDirectory.getD "development".toList)).dropLast ++
              ["buildSrc".toList, "studio_versions.properties".toList])) ∧
          outputPath s { o with toolDirectory := none } =
            outputPath s { o with toolDirectory := some "development".toList } ∧
          ∀ dir dir', walk (walk [] cwd) dir = walk (walk [] cwd) dir' →
            outputPath s { o with toolDirectory := some dir } =
              outputPath s { o with toolDirectory := some dir' }) := by
  simp only [outputPath_of_directory hcwd, Except.ok.injEq, exists_eq_left']
  constructor
  · intro output houtput
    rw [outputPathFrom_of_output houtput]
    refine ⟨?_, ?_, ?_⟩
    · intro dir
      exact outputPathFrom_of_output (o := { o with toolDirectory := dir }) houtput cwd
    · intro hroot
      exact resolvePath_of_isAbsolutePath hroot cwd
    · intro hrel
      have hplain : IsPlainPath (resolvePath cwd output) := isPlainPath_resolvePath habs hrel
      have hwalk : walk [] (resolvePath cwd output) = walk (walk [] cwd) output :=
        walk_resolvePath [] cwd output
      refine ⟨hplain, hwalk, fun path' hplain' hwalk' => ?_⟩
      exact hplain'.eq_of_walk_eq hplain (hwalk'.trans hwalk.symm)
  · intro hnone
    obtain ⟨hplain, hwalk⟩ := outputPathFrom_of_no_output habs hnone
    refine ⟨⟨hplain, ?_⟩, ?_, fun dir dir' hwalks => ?_⟩
    · have hpath := hplain.eq_slash_join
      rw [hwalk] at hpath
      exact hpath
    · exact outputPathFrom_congr habs hnone none (some defaultToolDirectory) rfl
    · exact outputPathFrom_congr habs hnone (some dir) (some dir') hwalks

end

/-- A store whose current directory is `/repo/tools`. -/
def toolsStore : Store := ⟨some "/repo/tools".toList, [], []⟩

/-- Options that climb to the root, with a directory of the tool that is spelled with detours. -/
def climbingOptions : Options :=
  { Options.ofVersion "3.4.0".toList with toolDirectory := some "./../..//../dev/../".toList }

theorem outputPath_of_options_aboveRoot :
    outputPath toolsStore climbingOptions =
        .ok "/buildSrc/studio_versions.properties".toList ∧
      outputPath toolsStore { climbingOptions with toolDirectory := some "/".toList } =
        outputPath toolsStore climbingOptions := by
  have hcwd : Workspace.currentDirectory toolsStore = .ok "/repo/tools".toList := rfl
  have habs : isAbsolutePath "/repo/tools".toList = true := by decide
  obtain ⟨⟨path, hpath, -, hform⟩, -, hspelling⟩ :=
    (outputPath_of_options hcwd habs climbingOptions).2 rfl
  refine ⟨?_, hspelling _ _ (by decide)⟩
  rw [hpath, hform]
  decide

end StudioLookup
