import StudioLookup.Proofs.Archive.OtherPlatforms

set_option autoImplicit false

/-! # Releases without a link for Windows

A listing names a prerelease and has, below the heading, a line with a link of the release for each
of some platforms. Nothing on such a page ends a listing for the lookup: it goes on from the heading
to the first link for Windows, over as many further headings as there are before it. So the answer
is the release of the first listing, from the one under the name on, with a link for Windows, and
the release is missing exactly when no listing from there on has one (`findRelease_listingPage`).
-/

namespace StudioLookup.Archive

/-! ## Listings -/

/-- What a release can be downloaded for. -/
inductive Platform where
  | windows
  | linux
  | macArchive
  | macImage
  deriving DecidableEq, Repr

/-- What the links for a platform end with. -/
def Platform.ending : Platform → Text
  | .windows => linkEnding
  | .linux => "-linux.tar.gz".toList
  | .macArchive => "-mac.zip".toList
  | .macImage => "-mac.dmg".toList

theorem Platform.ending_mem_otherEndings {p : Platform} (h : p ≠ .windows) :
    p.ending ∈ otherEndings := by
  cases p with
  | windows => exact absurd rfl h
  | linux => decide
  | macArchive => decide
  | macImage => decide

/-- A release with links for some platforms. -/
structure Listing where
  name : Text
  release : Release
  platforms : List Platform
  named : ∃ version, HasPlainStage version ∧ releaseName version = .ok name
  numbered : IsNumbered release

/-- The line with the link of a release for a platform. -/
def platformLine (r : Release) (p : Platform) : Text :=
  anchorOpening ++ (r.stem ++ (p.ending ++ anchorClosing))

/-- The lines of a listing. -/
def Listing.lines (l : Listing) : List Text :=
  headingLine l.name :: l.platforms.map (platformLine l.release)

/-- The page of the listings. -/
def listingPage (ls : List Listing) : Text := Text.unlines (ls.flatMap Listing.lines)

/-- The listing has a link for Windows. -/
def Listing.HasWindows (l : Listing) : Prop := .windows ∈ l.platforms

instance (l : Listing) : Decidable l.HasWindows :=
  inferInstanceAs (Decidable (Platform.windows ∈ l.platforms))

/-! ## Lines with and without a link for Windows -/

theorem platformLine_windows (r : Release) : platformLine r .windows = linkLine r :=
  (linkLine_eq_anchor r).symm

theorem not_linkEnding_infix_platformLine {r : Release} {p : Platform} (h : IsNumbered r)
    (hp : p ≠ .windows) : ¬ linkEnding <:+: platformLine r p := by
  have hother := not_linkEnding_infix_other h (Platform.ending_mem_otherEndings hp)
    (show ¬ linkEnding <:+: [] by decide)
  rw [List.append_nil] at hother
  exact hother

/-- The ending of a link for Windows begins with a dash, and no heading has one. -/
theorem not_linkEnding_infix_headingLine {name series stage number : Text}
    (h : HasWords name series stage number) : ¬ linkEnding <:+: headingLine name := by
  have hname : '-' ∉ name := h.not_mem (by decide) (by decide) (by decide)
  have hopening : '-' ∉ headingOpening := by decide
  have hclosing : '-' ∉ headingClosing := by decide
  intro hinfix
  have hmem := hinfix.subset (show '-' ∈ linkEnding by decide)
  simp [headingLine, hopening, hname, hclosing] at hmem

namespace Listing

/-- The lines of a listing as a block. -/
def block (l : Listing) : Block where
  name := l.name
  body := l.platforms.map (platformLine l.release)
  named := l.named
  noProduct := by
    have hendings : ∀ p : Platform, 'A' ∉ p.ending := by
      intro p
      cases p <;> decide
    intro line hline
    obtain ⟨p, -, rfl⟩ := List.mem_map.mp hline
    exact not_product_infix_anchor l.numbered (hendings p)

theorem not_linkEnding_infix_of_mem_lines {l : Listing} (h : ¬ l.HasWindows) :
    ∀ line ∈ l.lines, ¬ linkEnding <:+: line := by
  intro line hline
  rcases List.mem_cons.mp hline with rfl | hline
  · obtain ⟨series, stage, number, hwords⟩ := l.block.hasWords
    exact not_linkEnding_infix_headingLine hwords
  · obtain ⟨p, hp, rfl⟩ := List.mem_map.mp hline
    refine not_linkEnding_infix_platformLine l.numbered ?_
    rintro rfl
    exact h hp

/-- A link for Windows stands below lines of its listing that end no such link. -/
theorem exists_windows_line {l : Listing} (h : l.HasWindows) :
    ∃ above below, l.lines = headingLine l.name :: above ++ linkLine l.release :: below ∧
      ∀ line ∈ headingLine l.name :: above, ¬ linkEnding <:+: line := by
  obtain ⟨ps, qs, hsplit, hps⟩ := List.eq_append_cons_of_mem h
  refine ⟨ps.map (platformLine l.release), qs.map (platformLine l.release), ?_, ?_⟩
  · rw [lines, hsplit, List.map_append, List.map_cons, platformLine_windows]
    rfl
  · -- the platforms before the first Windows are those of a listing without it
    exact not_linkEnding_infix_of_mem_lines (l := { l with platforms := ps }) hps

end Listing

theorem listingPage_eq_blockPage (ls : List Listing) :
    listingPage ls = blockPage (ls.map Listing.block) := by
  rw [listingPage, blockPage, List.flatMap_map]
  rfl

/-! ## The lookup -/

variable {earlier later : List Listing} {l : Listing}

theorem name_ne_of_mem_map_block (hfirst : ∀ f ∈ earlier, f.name ≠ l.name) :
    ∀ b ∈ earlier.map Listing.block, b.name ≠ l.block.name := by
  intro b hb
  obtain ⟨f, hf, rfl⟩ := List.mem_map.mp hb
  exact hfirst f hf

/-- The first listing from the name on that has a link for Windows is the one that is found. -/
theorem findRelease?_of_first_windows (hfirst : ∀ f ∈ earlier, f.name ≠ l.name)
    {before after : List Listing} {f : Listing} (hsplit : l :: later = before ++ f :: after)
    (hbefore : ∀ g ∈ before, ¬ g.HasWindows) (hf : f.HasWindows) :
    findRelease? (listingPage (earlier ++ l :: later)) l.name = some f.release := by
  obtain ⟨above, below, hlines, habove⟩ := Listing.exists_windows_line hf
  -- the lines from the heading with the name down to the link
  have hdown : headingLine l.name :: (l.block.body ++ later.flatMap Listing.lines) =
      (before.flatMap Listing.lines ++ headingLine f.name :: above) ++ linkLine f.release ::
        (below ++ after.flatMap Listing.lines) := by
    calc headingLine l.name :: (l.block.body ++ later.flatMap Listing.lines)
        = (l :: later).flatMap Listing.lines := rfl
      _ = before.flatMap Listing.lines ++ (f.lines ++ after.flatMap Listing.lines) := by
          rw [hsplit, List.flatMap_append, List.flatMap_cons]
      _ = _ := by
          rw [hlines]
          simp only [List.append_assoc, List.cons_append]
  have hnone : ∀ line ∈ before.flatMap Listing.lines ++ headingLine f.name :: above,
      ¬ linkEnding <:+: line := by
    intro line hline
    rcases List.mem_append.mp hline with hline | hline
    · obtain ⟨g, hg, hline⟩ := List.mem_flatMap.mp hline
      exact Listing.not_linkEnding_infix_of_mem_lines (hbefore g hg) line hline
    · exact habove line hline
  -- the first of these lines is the heading itself
  obtain ⟨ls, hls⟩ : ∃ ls, before.flatMap Listing.lines ++ headingLine f.name :: above =
      headingLine l.name :: ls := by
    cases hupper : before.flatMap Listing.lines ++ headingLine f.name :: above with
    | nil => exact absurd hupper (by simp)
    | cons heading ls =>
        rw [hupper] at hdown
        exact ⟨ls, by rw [(List.cons.inj hdown).1]⟩
  rw [hls] at hdown hnone
  have hbelow : l.block.body ++ (later.map Listing.block).flatMap Block.lines =
      ls ++ linkLine f.release :: (below ++ after.flatMap Listing.lines) := by
    rw [List.flatMap_map]
    exact (List.cons.inj hdown).2
  rw [listingPage_eq_blockPage, List.map_append, List.map_cons]
  exact findRelease?_of_first_link (b := l.block) (name_ne_of_mem_map_block hfirst) f.numbered
    hbelow fun line hline => hnone line (List.mem_cons_of_mem _ hline)

theorem findRelease?_of_no_windows (hfirst : ∀ f ∈ earlier, f.name ≠ l.name)
    (hnone : ∀ f ∈ l :: later, ¬ f.HasWindows) :
    findRelease? (listingPage (earlier ++ l :: later)) l.name = none := by
  rw [listingPage_eq_blockPage, List.map_append, List.map_cons]
  refine findRelease?_of_no_link (b := l.block) (name_ne_of_mem_map_block hfirst) ?_
  intro line hline
  have hmem : line ∈ (l :: later).flatMap Listing.lines := by
    rw [List.flatMap_map] at hline
    exact List.mem_cons_of_mem (headingLine l.name) hline
  obtain ⟨f, hf, hline⟩ := List.mem_flatMap.mp hmem
  exact Listing.not_linkEnding_infix_of_mem_lines (hnone f hf) line hline

/-- **A release without a link for Windows is answered with the next that has one.** Under the name
of a listing that no listing above it has, the lookup answers with the release of the first listing
from there on with a link for Windows. It reports the release as missing exactly when no listing
from there on has such a link. -/
theorem findRelease_listingPage (hfirst : ∀ f ∈ earlier, f.name ≠ l.name) :
    findRelease (listingPage (earlier ++ l :: later)) l.name =
        (match (l :: later).find? (fun f => f.HasWindows) with
          | some f => .ok f.release
          | none => .error (missingRelease l.name)) ∧
      (findRelease (listingPage (earlier ++ l :: later)) l.name = .error (missingRelease l.name) ↔
        ∀ f ∈ l :: later, ¬ f.HasWindows) ∧
      (missingRelease l.name).kind? = some .notFound := by
  cases hfind : (l :: later).find? (fun f => f.HasWindows) with
  | none =>
      have hnone : ∀ f ∈ l :: later, ¬ f.HasWindows := by
        simpa using List.find?_eq_none.mp hfind
      rw [findRelease, findRelease?_of_no_windows hfirst hnone]
      exact ⟨rfl, ⟨fun _ => hnone, fun _ => rfl⟩, rfl⟩
  | some f =>
      obtain ⟨hf, before, after, hsplit, hbefore⟩ := List.find?_eq_some_iff_append.mp hfind
      have hwindows : f.HasWindows := by simpa using hf
      have hmem : f ∈ l :: later := by rw [hsplit]; simp
      have hlater : ∀ e ∈ before, ¬ e.HasWindows := by simpa using hbefore
      rw [findRelease, findRelease?_of_first_windows hfirst hsplit hlater hwindows]
      refine ⟨rfl, ⟨fun hmissing => ?_, fun hnone => absurd hwindows (hnone f hmem)⟩, rfl⟩
      cases hmissing

/-- A release that was published for the other platforms only. -/
def secondCanary : Listing where
  name := "Android Studio 3.4 Canary 2".toList
  release := ⟨"3.4.0.1".toList, "182".toList, "5078385".toList⟩
  platforms := [.macImage, .linux]
  named := ⟨"3.4.0-canary02".toList,
    ⟨"3.4.0".toList, "canary02".toList, rfl, List.all_eq_true.mp rfl⟩, rfl⟩
  numbered := ⟨by decide, by simp, by decide, by decide⟩

/-- A release with a link for Windows among its links. -/
def thirdCanary : Listing where
  name := "Android Studio 3.4 Canary 3".toList
  release := ⟨"3.4.0.2".toList, "183".toList, "5081642".toList⟩
  platforms := [.linux, .windows]
  named := ⟨"3.4.0-canary03".toList,
    ⟨"3.4.0".toList, "canary03".toList, rfl, List.all_eq_true.mp rfl⟩, rfl⟩
  numbered := ⟨by decide, by simp, by decide, by decide⟩

theorem findRelease_listingPage_secondCanary :
    findRelease (listingPage ([thirdCanary] ++ [secondCanary])) secondCanary.name =
      .error (missingRelease secondCanary.name) := by
  have hfirst : ∀ f ∈ [thirdCanary], f.name ≠ secondCanary.name := by decide
  have hnone : ∀ f ∈ [secondCanary], ¬ f.HasWindows := by decide
  exact (findRelease_listingPage hfirst).2.1.mpr hnone

/-- Two listings with different names, the first without a link for Windows: the lookup under its
name answers with the release of the second. -/
theorem findRelease_of_next_listing :
    secondCanary.name ≠ thirdCanary.name ∧ ¬ secondCanary.HasWindows ∧
      findRelease (listingPage [secondCanary, thirdCanary]) secondCanary.name =
        .ok thirdCanary.release ∧
      findRelease (listingPage [secondCanary, thirdCanary]) secondCanary.name ≠
        .error (missingRelease secondCanary.name) := by
  have hwithout : ∀ f ∈ [secondCanary], ¬ f.HasWindows := by decide
  have hwith : thirdCanary.HasWindows := by decide
  have hsplit : [secondCanary, thirdCanary] = [secondCanary] ++ thirdCanary :: [] := rfl
  have hfind : findRelease? (listingPage ([] ++ [secondCanary, thirdCanary])) secondCanary.name =
      some thirdCanary.release :=
    findRelease?_of_first_windows (by simp) hsplit hwithout hwith
  rw [List.nil_append] at hfind
  have hfound : findRelease (listingPage [secondCanary, thirdCanary]) secondCanary.name =
      .ok thirdCanary.release := by
    rw [findRelease, hfind]
  refine ⟨by decide, hwithout secondCanary (by simp), hfound, fun hmissing => ?_⟩
  rw [hfound] at hmissing
  cases hmissing

end StudioLookup.Archive
