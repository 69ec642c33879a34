import Mathlib.Data.List.Infix
import StudioLookup.Proofs.Archive.Link
import StudioLookup.Proofs.Text.Lines
import StudioLookup.Proofs.Version.Words

set_option autoImplicit false

/-! # Headings and the links below them

A page of the archive is made here of *blocks*: a heading with the name of a prerelease and lines
below it that do not name the product. The lookup answers with the first link for Windows below the
first heading with the name (`findRelease?_of_first_link`), in whatever block this link stands, and
finds nothing when there is none (`findRelease?_of_no_link`).

The argument has two halves. A name can stand alone only in a heading, and there only as the
whole heading (`eq_of_name_in_heading`): the blanks of the line are those of the name, so the
words of both are the same. And no link comes before that of the first link line below the heading
(`noLonger_of_link_below`), since a link stands on one line and the lines above it hold none.
-/

namespace StudioLookup.Archive

/-! ## Lines -/

/-- A release as the archive numbers them: the version is made of digits and dots, the version of
the platform and the number of the build are numerals. -/
structure IsNumbered (r : Release) : Prop where
  version_ne_nil : r.version ≠ []
  version_digits : ∀ c ∈ r.version, c.isDigit = true ∨ c = '.'
  idea_numeral : Version.isNumeral r.ideaMajorVersion = true
  build_numeral : Version.isNumeral r.buildNumber = true

/-- What stands before a name in its heading. -/
def headingOpening : Text := "<p>".toList

/-- What stands after a name in its heading. -/
def headingClosing : Text := "</p>".toList

/-- What stands before a link. -/
def anchorOpening : Text := "<a href=\x22".toList

/-- What stands after a link. -/
def anchorClosing : Text := "\x22>".toList

/-- The line that names a release. -/
def headingLine (name : Text) : Text := headingOpening ++ (name ++ headingClosing)

/-- The line with the link of a release. -/
def linkLine (r : Release) : Text := anchorOpening ++ (r.link ++ anchorClosing)

/-! ## The characters of a link -/

theorem IsNumbered.not_mem_version {r : Release} (h : IsNumbered r) {c : Char}
    (hd : c.isDigit = false) (hc : c ≠ '.') : c ∉ r.version := by
  intro hmem
  rcases h.version_digits c hmem with hdigit | hdot
  · rw [hd] at hdigit
    exact absurd hdigit (by simp)
  · exact hc hdot

theorem not_mem_of_isNumeral {t : Text} (h : Version.isNumeral t = true) {c : Char}
    (hd : c.isDigit = false) : c ∉ t := by
  intro hmem
  have hall : t.all Char.isDigit = true := (Bool.and_eq_true_iff.mp h).2
  have hdigit := List.all_eq_true.mp hall c hmem
  rw [hd] at hdigit
  exact absurd hdigit (by simp)

theorem IsNumbered.onOneLine {r : Release} (h : IsNumbered r) : r.OnOneLine :=
  ⟨h.not_mem_version (by decide) (by decide), not_mem_of_isNumeral h.idea_numeral (by decide),
    not_mem_of_isNumeral h.build_numeral (by decide)⟩

theorem IsNumbered.not_mem_stem {r : Release} (h : IsNumbered r) {c : Char}
    (hd : c.isDigit = false) (hdot : c ≠ '.') (hopening : c ∉ linkOpening)
    (hproduct : c ∉ linkProduct) : c ∉ r.stem := by
  have hv : c ∉ r.version := h.not_mem_version hd hdot
  have hi : c ∉ r.ideaMajorVersion := not_mem_of_isNumeral h.idea_numeral hd
  have hb : c ∉ r.buildNumber := not_mem_of_isNumeral h.build_numeral hd
  simp [Release.stem, hopening, hv, hproduct, hi, hdot, hb]

/-- The name of the product does not stand in an anchor, which has no capital letter. -/
theorem not_product_infix_anchor {r : Release} {ending : Text} (h : IsNumbered r)
    (hending : 'A' ∉ ending) :
    ¬ Version.product <:+: anchorOpening ++ (r.stem ++ (ending ++ anchorClosing)) := by
  have hstem : 'A' ∉ r.stem := h.not_mem_stem (by decide) (by decide) (by decide) (by decide)
  have hopening : 'A' ∉ anchorOpening := by decide
  have hclosing : 'A' ∉ anchorClosing := by decide
  intro hinfix
  have hmem := hinfix.subset (show 'A' ∈ Version.product by decide)
  simp [hopening, hstem, hending, hclosing] at hmem

theorem linkLine_eq_anchor (r : Release) :
    linkLine r = anchorOpening ++ (r.stem ++ (linkEnding ++ anchorClosing)) := by
  rw [linkLine, Release.link_eq_stem_append, List.append_assoc]

theorem not_product_infix_linkLine {r : Release} (h : IsNumbered r) :
    ¬ Version.product <:+: linkLine r := by
  rw [linkLine_eq_anchor]
  exact not_product_infix_anchor h (by decide)

/-! ## Names on the page -/

/-- The digits at the beginning of a text, when no further digit follows them. -/
theorem takeWhile_isDigit_append {number t : Text} (hnumber : ∀ c ∈ number, c.isDigit = true)
    (ht : ∀ c ∈ t.head?, c.isDigit = false) : (number ++ t).takeWhile Char.isDigit = number := by
  rw [List.takeWhile_append_of_pos hnumber]
  cases t with
  | nil => rw [List.takeWhile_nil, List.append_nil]
  | cons c t =>
      have hc : ¬ c.isDigit = true := by simp [ht c rfl]
      rw [List.takeWhile_cons_of_neg hc, List.append_nil]

/-- A name that stands alone in a heading is the whole heading. -/
theorem eq_of_name_in_heading {name series stage number name' series' stage' number' a b : Text}
    (h : HasWords name series stage number) (h' : HasWords name' series' stage' number')
    (heq : headingLine name' = a ++ (name ++ b)) (hb : ∀ c ∈ b.head?, c.isDigit = false) :
    a = headingOpening ∧ name' = name := by
  have hopening : ' ' ∉ headingOpening := by decide
  have hclosing : ' ' ∉ headingClosing := by decide
  -- all blanks of the heading are those of the name, so none is left for `a` and `b`
  have hcount := congrArg (List.count ' ') heq
  simp only [headingLine, List.count_append, h.count_blank, h'.count_blank,
    List.count_eq_zero_of_not_mem hopening, List.count_eq_zero_of_not_mem hclosing] at hcount
  have ha : ' ' ∉ a := List.count_eq_zero.mp (by omega)
  have hb' : ' ' ∉ b := List.count_eq_zero.mp (by omega)
  -- cut at the blanks, the two sides are the same five words
  have hpieces := congrArg (Text.pieces ' ') heq
  rw [headingLine, h'.pieces_append hopening hclosing, h.pieces_append ha hb'] at hpieces
  simp only [List.cons.injEq, and_true, true_and] at hpieces
  obtain ⟨hfirst, rfl, rfl, hlast⟩ := hpieces
  have hnumber : number' = number := by
    rw [← takeWhile_isDigit_append h.number_digits hb, ← hlast]
    refine (takeWhile_isDigit_append h'.number_digits fun c hc => ?_).symm
    obtain rfl : '<' = c := Option.some.inj hc
    rfl
  refine ⟨(List.append_cancel_right hfirst).symm, ?_⟩
  rw [h.eq_join, h'.eq_join, hnumber]

/-! ## Blocks of lines -/

/-- A heading with the name of a prerelease, and lines below it that do not name the product. -/
structure Block where
  name : Text
  body : List Text
  named : ∃ version, HasPlainStage version ∧ releaseName version = .ok name
  noProduct : ∀ l ∈ body, ¬ Version.product <:+: l

namespace Block

/-- The lines of a block. -/
def lines (b : Block) : List Text := headingLine b.name :: b.body

theorem hasWords (b : Block) : ∃ series stage number, HasWords b.name series stage number := by
  obtain ⟨version, hplain, hname⟩ := b.named
  exact hasWords_of_releaseName hname hplain

/-- The name of the product stands in no line of a block but the first. -/
theorem eq_of_product_infix {b : Block} {above below : List Text} {l : Text}
    (h : b.lines = above ++ l :: below) (hl : Version.product <:+: l) :
    above = [] ∧ l = headingLine b.name := by
  cases above with
  | nil => exact ⟨rfl, (List.cons.inj h).1.symm⟩
  | cons l' above =>
      have hmem : l ∈ b.body := by
        rw [(List.cons.inj h).2]
        simp
      exact absurd hl (b.noProduct l hmem)

end Block

/-- The page that is put together from blocks. -/
def blockPage (bs : List Block) : Text := Text.unlines (bs.flatMap Block.lines)

theorem blockPage_append (bs cs : List Block) :
    blockPage (bs ++ cs) = blockPage bs ++ blockPage cs := by
  simp [blockPage, Text.unlines_append]

/-- What follows the first name of a page begins with the closing of its heading. -/
theorem blockPage_cons (b : Block) (bs : List Block) :
    blockPage (b :: bs) = headingOpening ++ (b.name ++ '<' ::
      Text.unlines (headingClosing.tail :: (b.body ++ bs.flatMap Block.lines))) := by
  have hclosing : headingClosing = '<' :: headingClosing.tail := rfl
  rw [blockPage, List.flatMap_cons, Block.lines, List.cons_append, Text.unlines_cons, headingLine,
    Text.unlines_cons, hclosing]
  simp only [List.append_assoc, List.cons_append, List.tail_cons]

/-- A name that stands alone on the page is the name of a block, in its heading. -/
theorem eq_of_name_in_page {bs : List Block} {name series stage number u v : Text} {c : Char}
    (h : HasWords name series stage number) (hc : c.isDigit = false)
    (heq : blockPage bs = u ++ (name ++ c :: v)) :
    ∃ earlier b later, bs = earlier ++ b :: later ∧ b.name = name ∧
      u = blockPage earlier ++ headingOpening := by
  -- the line of the page in which the name stands, and the block of this line
  obtain ⟨before, x, y, after, hlines, rfl, hrest⟩ :=
    Text.eq_lines_of_append h.ne_nil h.not_mem_lineFeed heq
  obtain ⟨earlier, b, later, above, below, rfl, hb, rfl⟩ := Text.eq_blocks_of_flatMap hlines
  have hproduct : Version.product <:+: x ++ (name ++ y) := by
    obtain ⟨t, ht⟩ := h.product_prefix
    exact ⟨x, t ++ y, by rw [← ht]; simp⟩
  obtain ⟨rfl, hheading⟩ := Block.eq_of_product_infix hb hproduct
  have hy : ∀ d ∈ y.head?, d.isDigit = false := by
    intro d hd
    cases y with
    | nil => cases hd
    | cons d' y =>
        obtain rfl : d' = d := Option.some.inj hd
        exact (List.cons.inj hrest).1 ▸ hc
  obtain ⟨series', stage', number', h'⟩ := b.hasWords
  obtain ⟨rfl, hname⟩ := eq_of_name_in_heading h h' hheading.symm hy
  refine ⟨earlier, b, later, rfl, hname, ?_⟩
  rw [List.append_nil, blockPage]

/-! ## The first link after a heading -/

theorem IsNumbered.hasShortestLink {r : Release} (h : IsNumbered r) : r.HasShortestLink :=
  Release.hasShortestLink (h.not_mem_version (by decide) (by decide))
    (not_mem_of_isNumeral h.idea_numeral (by decide))
    (endsFirst_of_not_mem (not_mem_of_isNumeral h.build_numeral (by decide)))

/-- No download link begins between the start of a link line and its own link. -/
theorem eq_nil_of_link_overlap {x a b : Text} {r r' : Release} (hx : x <:+ anchorOpening)
    (h : x ++ (r.link ++ a) = r'.link ++ b) : x = [] := by
  -- two characters tell the opening of a link from every rest of what stands before it
  have hrests : ∀ y ∈ anchorOpening.tails,
      y = [] ∨ (y ++ linkOpening).take 2 ≠ linkOpening.take 2 := by decide
  have hlong : 2 ≤ linkOpening.length := by decide
  rcases hrests x ((List.mem_tails x anchorOpening).mpr hx) with hnil | hne
  · exact hnil
  · refine absurd ?_ hne
    rw [r.link_append, r'.link_append, ← List.append_assoc] at h
    have htake := congrArg (List.take 2) h
    rw [List.take_append_of_le_length hlong, List.take_append_of_le_length] at htake
    · exact htake
    · rw [List.length_append]
      omega

/-- In a line with a shortest link no link begins earlier than it, and of those that begin with it
none is shorter. -/
theorem noLonger_in_linkLine {r r' : Release} {a b : Text} (hr : r.HasShortestLink)
    (h : linkLine r = a ++ (r'.link ++ b)) :
    NoLonger (anchorOpening :: r.parts) (a :: r'.parts) := by
  rw [linkLine] at h
  -- the other link begins with or after the line's own link, or before it
  rcases List.append_eq_append_iff.mp h with ⟨x, rfl, hx⟩ | ⟨x, hopening, hx⟩
  · cases x with
    | nil =>
        refine Or.inr ⟨by rw [List.append_nil], ?_⟩
        exact hr r' _ _ hx
    | cons c x =>
        refine Or.inl ?_
        rw [List.length_append, List.length_cons]
        omega
  · obtain rfl : x = [] := eq_nil_of_link_overlap ⟨a, hopening.symm⟩ hx.symm
    rw [List.append_nil] at hopening
    subst hopening
    refine Or.inr ⟨rfl, ?_⟩
    exact hr r' _ _ hx.symm

/-- Of all links below lines that hold none, the one on the first link line comes first. -/
theorem noLonger_of_link_below {ls more : List Text} {r r' : Release} {gap rest : Text}
    (hls : ∀ l ∈ ls, ¬ linkEnding <:+: l) (hr : IsNumbered r) (hr' : r'.OnOneLine)
    (h : Text.unlines (ls ++ linkLine r :: more) = gap ++ (r'.link ++ rest)) :
    NoLonger ((Text.unlines ls ++ anchorOpening) :: r.parts) (gap :: r'.parts) := by
  obtain ⟨before, a, b, after, hlines, rfl, -⟩ :=
    Text.eq_lines_of_append r'.link_ne_nil (Release.not_lineFeed_mem_link hr') h
  rcases Text.append_cons_cases hlines with ⟨rfl, hline, -⟩ | ⟨m, rfl⟩ | ⟨m, hbefore⟩
  · exact (noLonger_in_linkLine hr.hasShortestLink hline).append_left _
  · -- the link stands on a line further down
    refine Or.inl ?_
    rw [Text.unlines_append, Text.unlines_cons, linkLine]
    simp only [List.length_append, List.length_cons]
    omega
  · -- it cannot stand on a line above
    refine absurd ?_ (hls (a ++ (r'.link ++ b)) (by rw [hbefore]; simp))
    exact r'.linkEnding_infix_link.trans ⟨a, b, by simp⟩

/-! ## The lookup -/

/-- A release whose link line stands somewhere below a heading is listed under its name. -/
theorem lists_of_link_below {earlier later : List Block} {b : Block} {ls more : List Text}
    {r : Release} (hr : IsNumbered r)
    (hbelow : b.body ++ later.flatMap Block.lines = ls ++ linkLine r :: more) :
    Lists (blockPage (earlier ++ b :: later)) b.name (blockPage earlier ++ "<p".toList) ['>']
      (Text.unlines (headingClosing.tail :: ls) ++ anchorOpening) r := by
  refine ⟨'<', anchorClosing ++ '\n' :: Text.unlines more, ?_, Or.inr ⟨'>', by decide, rfl⟩,
    by decide, hr.onOneLine⟩
  have hopening : headingOpening = "<p".toList ++ ['>'] := rfl
  rw [blockPage_append, blockPage_cons, hbelow, hopening, ← List.cons_append, Text.unlines_append,
    Text.unlines_cons (linkLine r), linkLine]
  simp only [List.append_assoc, List.cons_append]

/-- Wherever a page lists a release under a name, the place is the heading of a block with this
name, and the link stands below it. -/
theorem exists_block_of_lists {bs : List Block} {name series stage number : Text}
    (h : HasWords name series stage number) {before lead gap : Text} {r : Release}
    (hlists : Lists (blockPage bs) name before lead gap r) :
    ∃ earlier b later rest, bs = earlier ++ b :: later ∧ b.name = name ∧
      before = blockPage earlier ++ "<p".toList ∧ lead = ['>'] ∧ r.OnOneLine ∧
      Text.unlines (headingClosing.tail :: (b.body ++ later.flatMap Block.lines)) =
        gap ++ (r.link ++ rest) := by
  obtain ⟨c, rest, hpage, hlead, hc, hr⟩ := hlists
  have hopening : headingOpening = "<p".toList ++ ['>'] := rfl
  rw [← List.append_assoc] at hpage
  obtain ⟨earlier, b, later, rfl, rfl, hbefore⟩ := eq_of_name_in_page h hc hpage
  have hplace : before = blockPage earlier ++ "<p".toList ∧ lead = ['>'] := by
    rw [hopening, ← List.append_assoc] at hbefore
    rcases hlead with ⟨hempty, rfl⟩ | ⟨d, -, rfl⟩
    · -- the page does not begin with a name
      rw [List.isEmpty_iff.mp hempty] at hbefore
      exact absurd hbefore (by simp)
    · exact List.append_inj' hbefore rfl
  refine ⟨earlier, b, later, rest, rfl, rfl, hplace.1, hplace.2, hr, ?_⟩
  -- what follows the name in the page is the rest of this block and the later ones
  rw [hbefore, blockPage_append, blockPage_cons] at hpage
  have hrest := List.append_cancel_left
    (hpage.trans (List.append_assoc (blockPage earlier) headingOpening _))
  exact (List.cons.inj (List.append_cancel_left (List.append_cancel_left hrest))).2

/-- The rest of a heading is one more line without a link above those that hold none. -/
theorem not_linkEnding_infix_below {ls : List Text} (hls : ∀ l ∈ ls, ¬ linkEnding <:+: l) :
    ∀ l ∈ headingClosing.tail :: ls, ¬ linkEnding <:+: l := by
  intro l hl
  rcases List.mem_cons.mp hl with rfl | hl
  · decide
  · exact hls l hl

/-- The lookup finds the first link line below the first heading with the name. -/
theorem findRelease?_of_first_link {earlier later : List Block} {b : Block} {ls more : List Text}
    {r : Release} (hfirst : ∀ f ∈ earlier, f.name ≠ b.name) (hr : IsNumbered r)
    (hbelow : b.body ++ later.flatMap Block.lines = ls ++ linkLine r :: more)
    (hls : ∀ l ∈ ls, ¬ linkEnding <:+: l) :
    findRelease? (blockPage (earlier ++ b :: later)) b.name = some r := by
  obtain ⟨series, stage, number, h⟩ := b.hasWords
  rw [findRelease?_eq_some_iff]
  refine ⟨_, _, _, lists_of_link_below hr hbelow, ?_⟩
  intro before lead gap r' hlists
  obtain ⟨earlier', b', later', rest, hsplit, hname, rfl, rfl, hr', hlink⟩ :=
    exists_block_of_lists h hlists
  rcases Text.append_cons_cases hsplit with ⟨rfl, rfl, rfl⟩ | ⟨m, rfl⟩ | ⟨m, rfl⟩
  · refine Or.inr ⟨rfl, Or.inr ⟨rfl, ?_⟩⟩
    rw [hbelow] at hlink
    exact noLonger_of_link_below (not_linkEnding_infix_below hls) hr hr' hlink
  · -- a block further down begins after this one
    refine Or.inl ?_
    have hlonger : 0 < (blockPage (b :: m)).length := by
      rw [blockPage_cons, List.length_append]
      exact Nat.add_pos_left (by decide) _
    rw [blockPage_append]
    simp only [List.length_append]
    omega
  · -- no block above has the name
    exact absurd hname (hfirst b' (by simp))

/-- Without a link below the first heading with the name, the lookup finds nothing. -/
theorem findRelease?_of_no_link {earlier later : List Block} {b : Block}
    (hfirst : ∀ f ∈ earlier, f.name ≠ b.name)
    (hbelow : ∀ l ∈ b.body ++ later.flatMap Block.lines, ¬ linkEnding <:+: l) :
    findRelease? (blockPage (earlier ++ b :: later)) b.name = none := by
  obtain ⟨series, stage, number, h⟩ := b.hasWords
  rw [findRelease?_eq_none_iff]
  intro before lead gap r hlists
  obtain ⟨earlier', b', later', rest, hsplit, hname, -, -, hr, hlink⟩ :=
    exists_block_of_lists h hlists
  -- the lines below any heading with the name are below the first
  have hbelow' : ∀ l ∈ b'.body ++ later'.flatMap Block.lines, ¬ linkEnding <:+: l := by
    rcases Text.append_cons_cases hsplit with ⟨-, rfl, rfl⟩ | ⟨m, rfl⟩ | ⟨m, rfl⟩
    · exact hbelow
    · intro l hl
      obtain rfl : later = m ++ b' :: later' := by simpa using hsplit
      refine hbelow l ?_
      rw [List.flatMap_append, List.flatMap_cons, Block.lines]
      exact List.mem_append_right _ (List.mem_append_right _ (List.mem_cons_of_mem _ hl))
    · exact absurd hname (hfirst b' (by simp))
  obtain ⟨above, x, y, below, hlines, -, -⟩ :=
    Text.eq_lines_of_append r.link_ne_nil (Release.not_lineFeed_mem_link hr) hlink
  refine not_linkEnding_infix_below hbelow' (x ++ (r.link ++ y)) (by rw [hlines]; simp) ?_
  exact r.linkEnding_infix_link.trans ⟨x, y, by simp⟩

end StudioLookup.Archive
