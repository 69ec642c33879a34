import StudioLookup.Proofs.Archive.Blocks

set_option autoImplicit false

/-! # Lists of releases

A list of releases is a page of *entries*: a heading with the name of a prerelease, below it the
download link for Windows on a line of its own, and around the link any lines that hold neither
the name of the product nor the ending of such a link. On these pages the lookup does what a
reader of the page would do (`findRelease_page`): it answers with the release of the first entry
under the name, and with a failure when there is none.
-/

namespace StudioLookup.Archive

/-! ## Entries -/

/-- A line that neither names a release nor ends a download link for Windows. -/
structure Filler where
  text : Text
  noLineFeed : '\n' ∉ text
  noProduct : ¬ Version.product <:+: text
  noLink : ¬ linkEnding <:+: text

/-- An entry of a list of releases. -/
structure Entry where
  name : Text
  /-- The lines between the heading and the link. -/
  above : List Filler
  release : Release
  /-- The lines after the link. -/
  below : List Filler
  named : ∃ version, HasPlainStage version ∧ releaseName version = .ok name
  numbered : IsNumbered release

/-- The lines of an entry. -/
def Entry.lines (e : Entry) : List Text :=
  headingLine e.name :: (e.above.map Filler.text ++ linkLine e.release :: e.below.map Filler.text)

/-- The page that lists the entries. -/
def page (es : List Entry) : Text := Text.unlines (es.flatMap Entry.lines)

/-- The lines of an entry as a block. -/
def Entry.block (e : Entry) : Block where
  name := e.name
  body := e.above.map Filler.text ++ linkLine e.release :: e.below.map Filler.text
  named := e.named
  noProduct := by
    intro l hl
    rw [List.mem_append, List.mem_cons, List.mem_map, List.mem_map] at hl
    rcases hl with ⟨f, -, rfl⟩ | rfl | ⟨f, -, rfl⟩
    · exact f.noProduct
    · exact not_product_infix_linkLine e.numbered
    · exact f.noProduct

theorem page_eq_blockPage (es : List Entry) : page es = blockPage (es.map Entry.block) := by
  rw [page, blockPage, List.flatMap_map]
  rfl

/-! ## The lookup -/

/-- Wherever a page lists a release under a name, the place is the heading of an entry with this
name. -/
theorem exists_entry_of_lists {es : List Entry} {name series stage number : Text}
    (h : HasWords name series stage number) {before lead gap : Text} {r : Release}
    (hlists : Lists (page es) name before lead gap r) :
    ∃ earlier e later, es = earlier ++ e :: later ∧ e.name = name ∧
      before = page earlier ++ "<p".toList := by
  rw [page_eq_blockPage] at hlists
  obtain ⟨_, _, _, _, hsplit, hname, hbefore, -⟩ := exists_block_of_lists h hlists
  obtain ⟨earlier, rest, rfl, rfl, hrest⟩ := List.map_eq_append_iff.mp hsplit
  obtain ⟨e, later, rfl, rfl, -⟩ := List.map_eq_cons_iff.mp hrest
  rw [← page_eq_blockPage] at hbefore
  exact ⟨earlier, e, later, rfl, hname, hbefore⟩

/-- The first of the entries under a name is the one that the lookup finds. -/
theorem findRelease?_page_of_split {earlier later : List Entry} {e : Entry}
    (hfirst : ∀ f ∈ earlier, f.name ≠ e.name) :
    findRelease? (page (earlier ++ e :: later)) e.name = some e.release := by
  have habove : ∀ l ∈ e.above.map Filler.text, ¬ linkEnding <:+: l := by
    intro l hl
    obtain ⟨f, -, rfl⟩ := List.mem_map.mp hl
    exact f.noLink
  have hbelow : e.block.body ++ (later.map Entry.block).flatMap Block.lines =
      e.above.map Filler.text ++ linkLine e.release ::
        (e.below.map Filler.text ++ (later.map Entry.block).flatMap Block.lines) := by
    simp only [Entry.block, List.append_assoc, List.cons_append]
  rw [page_eq_blockPage, List.map_append, List.map_cons]
  refine findRelease?_of_first_link (b := e.block) ?_ e.numbered hbelow habove
  intro f hf
  obtain ⟨e', he', rfl⟩ := List.mem_map.mp hf
  exact hfirst e' he'

/-- **The lookup finds the right release.** On every page made of entries, the release under the
name of an accepted prerelease with a plain stage is that of the first entry with this name, and
the release is reported as missing when there is no such entry. -/
theorem findRelease_page (es : List Entry) {version name : Text} (hplain : HasPlainStage version)
    (hname : releaseName version = .ok name) :
    findRelease (page es) name =
        (match es.find? (fun e => e.name = name) with
          | some e => .ok e.release
          | none => .error (missingRelease name)) ∧
      (missingRelease name).kind? = some .notFound := by
  obtain ⟨series, stage, number, h⟩ := hasWords_of_releaseName hname hplain
  refine ⟨?_, rfl⟩
  cases hfind : es.find? (fun e => e.name = name) with
  | none =>
      have hnone : findRelease? (page es) name = none := by
        rw [findRelease?_eq_none_iff]
        intro before lead gap r hlists
        obtain ⟨_, e, _, rfl, hen, -⟩ := exists_entry_of_lists h hlists
        have hne := List.find?_eq_none.mp hfind e (by simp)
        exact hne (by simpa using hen)
      rw [findRelease, hnone]
  | some e =>
      obtain ⟨hen, earlier, later, rfl, hfirst⟩ := List.find?_eq_some_iff_append.mp hfind
      obtain rfl : e.name = name := by simpa using hen
      rw [findRelease, findRelease?_page_of_split]
      intro f hf
      simpa using hfirst f hf

/-- An entry for the tenth canary of a series, with the link for another platform above its own. -/
def tenthCanary : Entry where
  name := "Android Studio 3.4 Canary 10".toList
  above := [⟨"<a href=\x22android-studio-ide-183.5141831-mac.zip\x22>".toList, by decide, by decide,
    by decide⟩]
  release := ⟨"3.4.0.9".toList, "183".toList, "5173923".toList⟩
  below := []
  named := ⟨"3.4.0-canary10".toList,
    ⟨"3.4.0".toList, "canary10".toList, rfl, List.all_eq_true.mp rfl⟩, rfl⟩
  numbered := ⟨by decide, by simp, by decide, by decide⟩

/-- An entry for the first canary of the same series. -/
def firstCanary : Entry where
  name := "Android Studio 3.4 Canary 1".toList
  above := []
  release := ⟨"3.4.0.0".toList, "182".toList, "5070326".toList⟩
  below := []
  named := ⟨"3.4.0-canary01".toList,
    ⟨"3.4.0".toList, "canary01".toList, rfl, List.all_eq_true.mp rfl⟩, rfl⟩
  numbered := ⟨by decide, by simp, by decide, by decide⟩

theorem findRelease_page_canaries :
    findRelease (page [tenthCanary, firstCanary]) firstCanary.name = .ok firstCanary.release ∧
      findRelease (page [tenthCanary]) firstCanary.name =
        .error (missingRelease firstCanary.name) := by
  have hplain : HasPlainStage "3.4.0-canary01".toList :=
    ⟨"3.4.0".toList, "canary01".toList, rfl, List.all_eq_true.mp rfl⟩
  have hname : releaseName "3.4.0-canary01".toList = .ok firstCanary.name := rfl
  exact ⟨(findRelease_page [tenthCanary, firstCanary] hplain hname).1,
    (findRelease_page [tenthCanary] hplain hname).1⟩

end StudioLookup.Archive
