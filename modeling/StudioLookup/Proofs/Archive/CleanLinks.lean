import StudioLookup.Proofs.Archive.Scan

set_option autoImplicit false

/-! # Links that are read back

A link is put together from the three parts of a release, and the lookup takes it apart again. For
this a part must not hold the text that ends it in the link: a release whose parts do not, and have
no line feed, is *clean*. `findRelease_link` says that clean releases are exactly what a lookup can
find. What it finds is clean, and the link of it stands in the page; and a clean release is found by
its link, whatever the name before and the text behind it.

A part may end in the beginning of the text that ends it, as in `1-windows-windows.zip`. This does
no harm, since none of these texts overlaps with itself (`startsOnce_of_mem_linkMarkers`).
-/

namespace StudioLookup

open Archive

/-- No part of the release holds a line feed, or the text that ends it in a link. -/
structure Release.IsClean (r : Release) : Prop where
  onOneLine : r.OnOneLine
  version_spec : ¬ linkProduct <:+: r.version
  idea_spec : '.' ∉ r.ideaMajorVersion
  build_spec : ¬ linkEnding <:+: r.buildNumber

namespace Archive

open Text (Marked StartsOnce between? pieces)

variable {page name t line gap : Text} {r : Release}

/-! ## One line -/

theorem startsOnce_of_mem_linkMarkers : ∀ m ∈ linkMarkers, StartsOnce m := by
  intro m hm
  simp only [linkMarkers, List.mem_cons, List.not_mem_nil, or_false] at hm
  rcases hm with rfl | rfl | rfl | rfl
  · exact ⟨'h', linkOpening.tail, rfl, by decide⟩
  · exact ⟨'/', linkProduct.tail, rfl, by decide⟩
  · exact ⟨'.', [], rfl, by decide⟩
  · exact ⟨'-', linkEnding.tail, rfl, by decide⟩

/-- A part holds the text that ends it nowhere, and the text before the link holds no opening. -/
theorem forall₂_linkMarkers_iff :
    List.Forall₂ (fun m g => ¬ m <:+: g) linkMarkers (gap :: r.parts) ↔
      ¬ linkOpening <:+: gap ∧ ¬ linkProduct <:+: r.version ∧ '.' ∉ r.ideaMajorVersion ∧
        ¬ linkEnding <:+: r.buildNumber := by
  simp [linkMarkers, Release.parts, List.singleton_infix_iff]

/-- What is read in a line is clean. -/
theorem isClean_of_linkIn? (h : linkIn? line = some r) (hline : '\n' ∉ line) : r.IsClean := by
  obtain ⟨gap, hbetween⟩ := linkIn?_eq_some_iff.mp h
  obtain ⟨hmarked, hnone⟩ := (Text.between?_eq_some_iff startsOnce_of_mem_linkMarkers).mp hbetween
  obtain ⟨-, hversion, hidea, hbuild⟩ := forall₂_linkMarkers_iff.mp hnone
  obtain ⟨gap', r', rest, hgs, rfl⟩ := marked_linkMarkers_iff.mp hmarked
  obtain rfl : r = r' := Release.parts_injective (List.cons.inj hgs).2
  refine ⟨?_, hversion, hidea, hbuild⟩
  -- the parts stand in the line with their link
  simp only [List.mem_append, Release.mem_link_iff, not_or] at hline
  exact ⟨hline.2.1.2.1, hline.2.1.2.2.2.1, hline.2.1.2.2.2.2.2.1⟩

/-- A clean release is read back from a line that begins with its link. -/
theorem linkIn?_link_append (h : r.IsClean) (rest : Text) : linkIn? (r.link ++ rest) = some r := by
  have hmarked : Marked linkMarkers ([] :: r.parts) (r.link ++ rest) :=
    marked_linkMarkers_iff.mpr ⟨[], r, rest, rfl, rfl⟩
  have hnone : List.Forall₂ (fun m g => ¬ m <:+: g) linkMarkers ([] :: r.parts) :=
    forall₂_linkMarkers_iff.mpr ⟨by decide, h.version_spec, h.idea_spec, h.build_spec⟩
  exact linkIn?_eq_some_iff.mpr
    ⟨[], (Text.between?_eq_some_iff startsOnce_of_mem_linkMarkers).mpr ⟨hmarked, hnone⟩⟩

/-! ## A page -/

/-- What is found in a page was read in a line of what stands behind the name. -/
theorem exists_line_of_findRelease? (h : findRelease? page name = some r) :
    ∃ k, ∃ line ∈ pieces '\n' (page.drop (k + name.length + 1)), linkIn? line = some r := by
  rw [findRelease?_eq_scan?, scan?] at h
  obtain ⟨k, -, hscan⟩ := Option.bind_eq_some_iff.mp h
  obtain ⟨above, line, below, hpieces, -, hlink⟩ := scanLines?_eq_some_iff.mp hscan
  exact ⟨k, line, by rw [hpieces]; simp, hlink⟩

theorem isClean_of_findRelease? (h : findRelease? page name = some r) : r.IsClean := by
  obtain ⟨k, line, hmem, hlink⟩ := exists_line_of_findRelease? h
  exact isClean_of_linkIn? hlink (Text.not_mem_of_mem_pieces hmem)

theorem link_infix_of_findRelease? (h : findRelease? page name = some r) : r.link <:+: page := by
  obtain ⟨before, lead, gap, ⟨c, rest, rfl, -⟩, -⟩ := findRelease?_eq_some_iff.mp h
  exact ⟨before ++ (lead ++ (name ++ c :: gap)), rest, by simp⟩

theorem scanLines?_link_append (h : r.IsClean) (rest : Text) :
    scanLines? (r.link ++ rest) = some r := by
  have hread : linkIn? r.link = some r := by simpa using linkIn?_link_append h []
  have hpieces : pieces '\n' r.link = [r.link] :=
    Text.pieces_of_not_mem (Release.not_lineFeed_mem_link h.onOneLine)
  have hlink : scanLines? r.link = some r :=
    scanLines?_eq_some_iff.mpr ⟨[], r.link, [], hpieces, by simp, hread⟩
  exact scanLines?_append hlink rest

/-- The first place where a name stands alone is the start of a page that begins with it as a
line. -/
theorem findRelease?_name_line (name t : Text) :
    findRelease? (name ++ '\n' :: t) name = scanLines? t := by
  have hdrop : (name ++ '\n' :: t).drop (0 + name.length + 1) = t := by
    rw [Nat.zero_add, ← List.drop_drop, List.drop_left]
    rfl
  have hstands : standsAloneAt (name ++ '\n' :: t) name 0 = true :=
    standsAloneAt_iff.mpr ⟨rfl, '\n', by rw [hdrop]; rfl, rfl⟩
  have hplace : (List.range ((name ++ '\n' :: t).length + 1)).find?
      (standsAloneAt (name ++ '\n' :: t) name) = some 0 :=
    List.find?_range_eq_some.mpr ⟨hstands, by simp, fun j hj => absurd hj (Nat.not_lt_zero j)⟩
  rw [findRelease?_eq_scan?, scan?, hplace, Option.bind_some, hdrop]

/-- A clean release is found by its link on the line below a name. -/
theorem findRelease_name_line_link (h : r.IsClean) (name rest : Text) :
    findRelease (name ++ '\n' :: (r.link ++ rest)) name = .ok r := by
  rw [findRelease_eq_ok_iff, findRelease?_name_line]
  exact scanLines?_link_append h rest

/-- **A link is read back, and only clean ones are read.** What a lookup finds is clean, and its
link stands in the page. A clean release is found by its link behind the line of any name, whatever
follows, and so is any release that was found in a page. -/
theorem findRelease_link (r : Release) :
    (∀ page name, findRelease page name = .ok r → r.IsClean ∧ r.link <:+: page) ∧
      (r.IsClean → ∀ name rest, findRelease (name ++ '\n' :: (r.link ++ rest)) name = .ok r) ∧
      ∀ page name, findRelease page name = .ok r →
        ∀ name' rest, findRelease (name' ++ '\n' :: (r.link ++ rest)) name' = .ok r := by
  have hfound : ∀ page name, findRelease page name = .ok r → r.IsClean ∧ r.link <:+: page := by
    intro page name h
    have hsome := findRelease_eq_ok_iff.mp h
    exact ⟨isClean_of_findRelease? hsome, link_infix_of_findRelease? hsome⟩
  have hback : r.IsClean →
      ∀ name rest, findRelease (name ++ '\n' :: (r.link ++ rest)) name = .ok r :=
    fun h => findRelease_name_line_link h
  exact ⟨hfound, hback, fun page name h => hback (hfound page name h).1⟩

/-- A release without a version whose other parts end like the beginning of what ends them. -/
def halfEnding : Release := ⟨[], "android-studio-ide-".toList, "1-windows.zi".toList⟩

theorem findRelease_link_halfEnding :
    halfEnding.IsClean ∧
      findRelease ("Beta 3".toList ++ '\n' :: (halfEnding.link ++ "-windows.zip".toList))
        "Beta 3".toList = .ok halfEnding ∧
      halfEnding.link <:+: "Beta 3".toList ++ '\n' :: (halfEnding.link ++ "-windows.zip".toList) ∧
      findRelease ("RC 1".toList ++ '\n' :: (halfEnding.link ++ "0".toList)) "RC 1".toList =
        .ok halfEnding := by
  have hclean : halfEnding.IsClean :=
    ⟨⟨by decide, by decide, by decide⟩, by decide, by decide, by decide⟩
  have hfound := (findRelease_link halfEnding).2.1 hclean "Beta 3".toList "-windows.zip".toList
  have himage := (findRelease_link halfEnding).1 _ _ hfound
  have hagain := (findRelease_link halfEnding).2.2 _ _ hfound "RC 1".toList "0".toList
  exact ⟨hclean, hfound, himage.2, hagain⟩

end Archive

end StudioLookup
