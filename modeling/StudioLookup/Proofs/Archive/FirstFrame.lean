import StudioLookup.Archive.Frame
import StudioLookup.Proofs.Archive.Link
import StudioLookup.Proofs.Text.MarkedLines
import StudioLookup.Proofs.Text.Replacement

set_option autoImplicit false

/-! # The first frame of the archive page

The frame of a page is the first one whose source is closed on its line. `Frame.IsFirst` says which
one this is: it is on the first line that has an opening with a quotation mark behind it, its
opening is the first on this line, and its source ends at the next quotation mark. A page has at
most one such frame, and has one unless no line has a frame (`firstFrame_cases`).

`frameUrl_eq_first` gives the answer for every page and every text that was asked for, from the
source of this frame alone. So neither what is behind the closing quotation mark nor a line without
a closed source has a part in it.
-/

namespace StudioLookup.Archive

open Text (FirstAt HoldsInOrder Marked MarkedOnLine between? pieces unlines)

/-- The fixed texts of a frame, in their order. -/
def frameMarkers : List Text := [frameOpening, ['\x22']]

/-- A line has a frame: the opening of one, and a quotation mark somewhere behind it. -/
def HasFrame (line : Text) : Prop :=
  ∃ before behind, line = before ++ (frameOpening ++ behind) ∧ '\x22' ∈ behind

/-- A frame in a page: the lines above and below it, and on its own line what is before its opening,
its source as it is written, and what is behind the quotation mark that closes it. -/
structure Frame where
  above : List Text
  before : Text
  source : Text
  behind : Text
  below : List Text

/-- The line of a frame. -/
def Frame.line (f : Frame) : Text :=
  f.before ++ (frameOpening ++ (f.source ++ '\x22' :: f.behind))

/-- The line of a frame up to the quotation mark that closes it. -/
def Frame.head (f : Frame) : Text :=
  f.before ++ (frameOpening ++ (f.source ++ ['\x22']))

/-- The page up to the quotation mark that closes the frame. -/
def Frame.upToClosing (f : Frame) : Text := unlines f.above ++ f.head

/-- The frame is the first of the page. -/
structure Frame.IsFirst (f : Frame) (page : Text) : Prop where
  pieces_eq : pieces '\n' page = f.above ++ f.line :: f.below
  above_spec : ∀ l ∈ f.above, ¬ HasFrame l
  firstAt : FirstAt frameOpening f.line f.before (f.source ++ '\x22' :: f.behind)
  source_spec : '\x22' ∉ f.source

variable {page page' line before source : Text} {gs : List Text} {f f' : Frame}

/-! ## Frames and their fixed texts -/

theorem marked_frameMarkers_iff :
    Marked frameMarkers gs line ↔ ∃ before source behind, gs = [before, source] ∧
      line = before ++ (frameOpening ++ (source ++ '\x22' :: behind)) := by
  unfold frameMarkers
  simp only [Text.marked_cons_iff]
  constructor
  · rintro ⟨before, _, _, rfl, rfl, source, _, behind, rfl, rfl, hnil⟩
    cases hnil
    exact ⟨before, source, behind, rfl, rfl⟩
  · rintro ⟨before, source, behind, rfl, rfl⟩
    exact ⟨before, [source], _, rfl, rfl, source, [], behind, rfl, rfl, .nil behind⟩

theorem hasFrame_iff : HasFrame line ↔ HoldsInOrder frameMarkers line := by
  constructor
  · rintro ⟨before, behind, rfl, hquote⟩
    obtain ⟨source, behind, rfl⟩ := List.append_of_mem hquote
    exact ⟨_, marked_frameMarkers_iff.mpr ⟨before, source, behind, rfl, rfl⟩⟩
  · rintro ⟨gs, hmarked⟩
    obtain ⟨before, source, behind, -, rfl⟩ := marked_frameMarkers_iff.mp hmarked
    exact ⟨before, source ++ '\x22' :: behind, rfl, by simp⟩

instance (line : Text) : Decidable (HasFrame line) := decidable_of_iff _ hasFrame_iff.symm

theorem areOfLines_frameMarkers : Text.AreOfLines frameMarkers :=
  ⟨by decide, by decide, by decide⟩

theorem between?_frameMarkers_iff :
    between? frameMarkers line = some gs ↔ ∃ before source behind, gs = [before, source] ∧
      FirstAt frameOpening line before (source ++ '\x22' :: behind) ∧ '\x22' ∉ source := by
  unfold frameMarkers
  simp only [Text.between?_cons_eq_some_iff, Text.firstAt_singleton_iff]
  constructor
  · rintro ⟨before, _, _, rfl, hfirst, source, _, behind, rfl, ⟨rfl, hsource⟩, hnil⟩
    cases hnil
    exact ⟨before, source, behind, rfl, hfirst, hsource⟩
  · rintro ⟨before, source, behind, rfl, hfirst, hsource⟩
    exact ⟨before, [source], _, rfl, hfirst, source, [], behind, rfl, ⟨rfl, hsource⟩, rfl⟩

/-! ## The search -/

/-- The pattern lies in a page where the fixed texts of a frame stand on one line. -/
theorem placed_framePattern_iff {lead : Text} :
    Placed framePattern page before lead gs ↔
      lead = [] ∧ ∃ source, gs = [source] ∧ MarkedOnLine frameMarkers [before, source] page := by
  unfold Placed PlacedFrom framePattern MarkedOnLine
  simp only [fits_literal_iff, fits_capture_iff, forall_inLine_iff, marked_frameMarkers_iff]
  constructor
  · rintro ⟨_, rfl, rfl, _, rfl, source, _, _, rfl, rfl, hsource, behind, rfl, hfit⟩
    cases hfit
    exact ⟨rfl, source, rfl, ⟨before, source, behind, rfl, rfl⟩, by simpa using hsource⟩
  · rintro ⟨rfl, source, rfl, ⟨_, _, behind, hgs, rfl⟩, hsource⟩
    cases hgs
    exact ⟨_, rfl, rfl, _, rfl, source, [], _, rfl, rfl, by simpa using hsource, behind, rfl,
      .nil behind⟩

theorem find?_framePattern_eq_none (h : ∀ gs, ¬ MarkedOnLine frameMarkers gs page) :
    framePattern.find? page = none := by
  refine Pattern.find?_eq_none_iff.mpr fun before lead gs hplaced => ?_
  obtain ⟨-, source, -, hmarked⟩ := placed_framePattern_iff.mp hplaced
  exact h _ hmarked

theorem find?_framePattern_eq_some
    (h : IsShortest (MarkedOnLine frameMarkers · page) [before, source]) :
    framePattern.find? page = some [source] := by
  obtain ⟨hmarked, hshortest⟩ := h
  refine Pattern.find?_eq_some_iff.mpr ⟨before, [], [source],
    placed_framePattern_iff.mpr ⟨rfl, source, rfl, hmarked⟩, rfl, ?_⟩
  intro before' lead' gs' hplaced'
  obtain ⟨rfl, source', rfl, hmarked'⟩ := placed_framePattern_iff.mp hplaced'
  -- the boundary of the pattern is empty and does not count
  rcases hshortest _ hmarked' with hlt | ⟨heq, hsource⟩
  · exact Or.inl hlt
  · exact Or.inr ⟨heq, Or.inr ⟨rfl, hsource⟩⟩

/-! ## The first frame -/

theorem Frame.line_eq (f : Frame) : f.line = f.head ++ f.behind := by
  simp [Frame.line, Frame.head]

theorem Frame.hasFrame_line (f : Frame) : HasFrame f.line :=
  ⟨f.before, f.source ++ '\x22' :: f.behind, rfl, by simp⟩

/-- A line has at most one first frame. -/
theorem Frame.IsFirst.eq_of_line_eq (h : f.IsFirst page) (h' : f'.IsFirst page')
    (hline : f.line = f'.line) :
    f.before = f'.before ∧ f.source = f'.source ∧ f.behind = f'.behind := by
  have hfirst := h.firstAt
  rw [hline] at hfirst
  obtain ⟨hbefore, hrest⟩ := hfirst.unique h'.firstAt
  obtain ⟨hsource, hbehind⟩ :=
    Text.append_cons_inj_of_not_mem_left h.source_spec h'.source_spec hrest
  exact ⟨hbefore, hsource, hbehind⟩

/-- A page has at most one first frame. -/
theorem Frame.IsFirst.unique (h : f.IsFirst page) (h' : f'.IsFirst page) : f = f' := by
  rcases Text.append_cons_cases (h.pieces_eq.symm.trans h'.pieces_eq) with
    ⟨habove, hline, hbelow⟩ | ⟨m, habove⟩ | ⟨m, habove⟩
  · obtain ⟨hbefore, hsource, hbehind⟩ := h.eq_of_line_eq h' hline
    cases f
    cases f'
    simp_all
  · -- the one further up would be on a line above the other
    exact absurd f.hasFrame_line (h'.above_spec _ (by rw [habove]; simp))
  · exact absurd f'.hasFrame_line (h.above_spec _ (by rw [habove]; simp))

/-- No line of a page has a frame, and no source is found, or the first frame is found. -/
theorem firstFrame_cases (page : Text) :
    ((∀ line ∈ pieces '\n' page, ¬ HasFrame line) ∧ frameSource? page = none) ∨
      ∃ f : Frame, f.IsFirst page ∧
        frameSource? page = some (Text.replaceAll escapedAmpersand ['&'] f.source) := by
  rcases Text.firstLine_cases areOfLines_frameMarkers page with
    ⟨hlines, hnone⟩ | ⟨above, line, below, before, inner, hpieces, habove, hline, hshortest⟩
  · refine Or.inl ⟨fun l hl hframe => hlines l hl (hasFrame_iff.mp hframe), ?_⟩
    rw [frameSource?, find?_framePattern_eq_none hnone]
  · obtain ⟨_, source, behind, hgs, hfirst, hsource⟩ := between?_frameMarkers_iff.mp hline
    cases hgs
    obtain rfl := hfirst.1
    refine Or.inr ⟨⟨above, before, source, behind, below⟩, ⟨hpieces, ?_, hfirst, hsource⟩, ?_⟩
    · exact fun l hl hframe => habove l hl (hasFrame_iff.mp hframe)
    · rw [frameSource?, find?_framePattern_eq_some hshortest]

/-- The source that is found is that of the first frame. -/
theorem frameSource?_of_isFirst (h : f.IsFirst page) :
    frameSource? page = some (Text.replaceAll escapedAmpersand ['&'] f.source) := by
  rcases firstFrame_cases page with ⟨hlines, -⟩ | ⟨f', hfirst, hsource⟩
  · exact absurd f.hasFrame_line (hlines _ (by rw [h.pieces_eq]; simp))
  · rw [hsource, hfirst.unique h]

/-- The page has a first frame with the given source, in which the ampersands are no longer
escaped. -/
def ShowsSource (page source : Text) : Prop :=
  ∃ f : Frame, f.IsFirst page ∧ Text.Replaced escapedAmpersand ['&'] f.source source

theorem frameSource?_eq_some_iff : frameSource? page = some source ↔ ShowsSource page source := by
  constructor
  · intro h
    rcases firstFrame_cases page with ⟨-, hnone⟩ | ⟨f, hfirst, hsource⟩
    · exact nomatch hnone.symm.trans h
    · obtain rfl := Option.some.inj (hsource.symm.trans h)
      exact ⟨f, hfirst, Text.replaced_replaceAll ['&'] (by decide) f.source⟩
  · rintro ⟨f, hfirst, hreplaced⟩
    rw [frameSource?_of_isFirst hfirst, (Text.replaceAll_eq_iff ['&'] (by decide)).mpr hreplaced]

/-! ## What has no part in it -/

/-- The lines of a page that have a frame. -/
def frameLines (page : Text) : List Text := (pieces '\n' page).filter (HasFrame ·)

theorem frameLines_eq_nil_iff :
    frameLines page = [] ↔ ∀ line ∈ pieces '\n' page, ¬ HasFrame line := by
  simp [frameLines, List.filter_eq_nil_iff]

theorem Frame.IsFirst.eq_upToClosing_append (h : f.IsFirst page) :
    ∃ rest, page = f.upToClosing ++ rest := by
  obtain ⟨rest, hpage⟩ := Text.exists_append_of_line h.pieces_eq
  refine ⟨f.behind ++ rest, ?_⟩
  rw [hpage, f.line_eq, Frame.upToClosing, List.append_assoc, List.append_assoc]

/-- Any text may stand behind the quotation mark that closes the first frame. -/
theorem Frame.IsFirst.upToClosing_append (h : f.IsFirst page) (rest : Text) :
    ∃ f' : Frame, f'.IsFirst (f.upToClosing ++ rest) ∧ f'.source = f.source := by
  have hlines : ∀ l ∈ pieces '\n' page, '\n' ∉ l := fun l hl => Text.not_mem_of_mem_pieces hl
  rw [h.pieces_eq] at hlines
  have habove : ∀ l ∈ f.above, '\n' ∉ l := fun l hl => hlines l (List.mem_append_left _ hl)
  have hhead : '\n' ∉ f.head := by
    have hline : '\n' ∉ f.line := hlines f.line (by simp)
    rw [f.line_eq, List.mem_append, not_or] at hline
    exact hline.1
  -- the line goes on with the first line of what stands behind
  obtain ⟨behind, below, -, hpieces⟩ := Text.pieces_append_of_not_mem hhead rest
  refine ⟨⟨f.above, f.before, f.source, behind, below⟩, ⟨?_, h.above_spec, ?_, h.source_spec⟩, rfl⟩
  · rw [Frame.upToClosing, List.append_assoc, Text.pieces_unlines_append habove, hpieces,
      Frame.line_eq]
    rfl
  · exact h.firstAt.of_before (f.source ++ '\x22' :: behind)

theorem Frame.IsFirst.frameLines_eq (h : f.IsFirst page) :
    ∃ ls, frameLines page = f.line :: ls := by
  have habove : f.above.filter (HasFrame ·) = [] := by
    simpa [List.filter_eq_nil_iff] using h.above_spec
  refine ⟨f.below.filter (HasFrame ·), ?_⟩
  rw [frameLines, h.pieces_eq, List.filter_append, habove, List.nil_append,
    List.filter_cons_of_pos (by simpa using f.hasFrame_line)]

/-- Pages that have the same lines with frames have the same source. -/
theorem frameSource?_congr (h : frameLines page' = frameLines page) :
    frameSource? page' = frameSource? page := by
  rcases firstFrame_cases page with ⟨hlines, hsource⟩ | ⟨f, hfirst, hsource⟩
  · rw [← frameLines_eq_nil_iff] at hlines
    rcases firstFrame_cases page' with ⟨-, hsource'⟩ | ⟨f', hfirst', -⟩
    · rw [hsource, hsource']
    · obtain ⟨ls, hls⟩ := hfirst'.frameLines_eq
      rw [h, hlines] at hls
      cases hls
  · obtain ⟨ls, hls⟩ := hfirst.frameLines_eq
    rcases firstFrame_cases page' with ⟨hlines', -⟩ | ⟨f', hfirst', hsource'⟩
    · rw [← frameLines_eq_nil_iff, h, hls] at hlines'
      cases hlines'
    · -- the first of the lines is that of the first frame in both pages
      obtain ⟨ls', hls'⟩ := hfirst'.frameLines_eq
      rw [h, hls] at hls'
      obtain ⟨hline, -⟩ := List.cons.inj hls'
      rw [hsource, hsource', (hfirst.eq_of_line_eq hfirst' hline).2.1]

theorem frameUrl_congr {url : Text} (h : frameSource? page' = frameSource? page) :
    frameUrl page' url = frameUrl page url := by
  rw [frameUrl, frameUrl, h]

/-! ## The URL of the frame -/

/-- **The first frame decides.** If no line of the page has a frame, this is reported, whatever was
asked for. Otherwise there is a first frame, and only one. Its source, with each escaped ampersand
replaced, is resolved against the URL that was asked for; an unreadable URL is a failure without a
kind, and a source that cannot be resolved is not found. What stands behind the frame, and lines
without a frame, can be changed without changing the answer. -/
theorem frameUrl_eq_first (page url : Text) :
    (((∀ line ∈ pieces '\n' page, ¬ HasFrame line) ∧
        frameUrl page url =
          .error (.ofKind .notFound ("no iframe in archive page ".toList ++ url))) ∨
      ∃ f : Frame, f.IsFirst page ∧ (∀ f' : Frame, f'.IsFirst page → f' = f) ∧
        (∃ source, Text.Replaced escapedAmpersand ['&'] f.source source ∧
          frameUrl page url =
            match Url.read url with
            | .error e =>
                .error ((Failure.plain e.message).withNote ("Invalid archive URL ".toList ++ url))
            | .ok base =>
                match base.join source with
                | .error e =>
                    .error (.ofKind .notFound ("iframe source ".toList ++ Text.quoted source ++
                      " is not a valid URL: ".toList ++ e.message))
                | .ok u => .ok u.toText) ∧
        ∃ rest, page = f.upToClosing ++ rest ∧
          ∀ rest', frameUrl (f.upToClosing ++ rest') url = frameUrl page url) ∧
    ∀ page', frameLines page' = frameLines page → frameUrl page' url = frameUrl page url := by
  refine ⟨?_, fun page' h => frameUrl_congr (frameSource?_congr h)⟩
  rcases firstFrame_cases page with ⟨hlines, hsource⟩ | ⟨f, hfirst, hsource⟩
  · refine Or.inl ⟨hlines, ?_⟩
    rw [frameUrl, hsource]
    rfl
  · refine Or.inr ⟨f, hfirst, fun f' hfirst' => hfirst'.unique hfirst,
      ⟨Text.replaceAll escapedAmpersand ['&'] f.source, ?_, ?_⟩, ?_⟩
    · exact Text.replaced_replaceAll ['&'] (by decide) f.source
    · rw [frameUrl, hsource]
      rfl
    · obtain ⟨rest, hpage⟩ := hfirst.eq_upToClosing_append
      refine ⟨rest, hpage, fun rest' => frameUrl_congr ?_⟩
      obtain ⟨f', hfirst', hsame⟩ := hfirst.upToClosing_append rest'
      rw [hsource, frameSource?_of_isFirst hfirst', hsame]

/-- A line with two frames. -/
def frameLine : Text := "<iframe src=\x22list?b&amp;c\x22><iframe src=\x22d\x22>".toList

/-- A page in which the line stands below an opening that is not closed. -/
def unclosedPage : Text := "<iframe src=\x22a\n".toList ++ frameLine

theorem frameUrl_eq_first_unclosedPage :
    frameUrl unclosedPage "http://[::1]/".toList = frameUrl frameLine "http://[::1]/".toList ∧
      frameUrl frameLine "http://[::1]/".toList = .ok "http://[::1]/list?b&c".toList := by
  have hlines : frameLines unclosedPage = frameLines frameLine := by decide +kernel
  exact ⟨(frameUrl_eq_first frameLine "http://[::1]/".toList).2 unclosedPage hlines,
    by decide +kernel⟩

end StudioLookup.Archive
