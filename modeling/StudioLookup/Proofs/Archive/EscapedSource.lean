import StudioLookup.Proofs.Archive.FirstFrame

set_option autoImplicit false

/-! # Sources that are written with escapes

In a page the ampersands of a source are escaped. What is read from such a page is the source as it
was before (`replaceAll_escapeAmpersands`): each escaped ampersand stands where the source has an
ampersand, and since what is put in for it is not read again, a source that looks escaped itself is
not unescaped a second time.

Escaping puts in no quotation mark and no line feed. So the source of the first opening in a page
ends where it was closed, whatever stands around it (`exists_isFirst_of_opening`), and its frame is
the one that the source refers to, seen from the URL that was asked for
(`frameUrl_escapeAmpersands`).
-/

namespace StudioLookup.Archive

open Text (pieces)

/-! ## Escaping -/

/-- A text as it is written in a page: each ampersand is escaped. -/
def escapeAmpersands (t : Text) : Text :=
  t.flatMap fun c => if c = '&' then escapedAmpersand else [c]

theorem escapeAmpersands_cons_ampersand (t : Text) :
    escapeAmpersands ('&' :: t) = escapedAmpersand ++ escapeAmpersands t := rfl

theorem escapeAmpersands_cons_of_ne {c : Char} (hc : c ≠ '&') (t : Text) :
    escapeAmpersands (c :: t) = c :: escapeAmpersands t := by
  simp [escapeAmpersands, hc]

/-- Escaping puts in no other characters than those of an escaped ampersand. -/
theorem not_mem_escapeAmpersands {c : Char} {t : Text} (hc : c ∉ escapedAmpersand) (ht : c ∉ t) :
    c ∉ escapeAmpersands t := by
  intro hmem
  obtain ⟨d, hd, hcd⟩ := List.mem_flatMap.mp hmem
  by_cases hamp : d = '&'
  · rw [if_pos hamp] at hcd
    exact hc hcd
  · rw [if_neg hamp] at hcd
    have heq : c = d := List.mem_singleton.mp hcd
    exact ht (heq ▸ hd)

/-- Unescaping takes back escaping, and takes back no more. -/
theorem replaceAll_escapeAmpersands (t : Text) :
    Text.replaceAll escapedAmpersand ['&'] (escapeAmpersands t) = t := by
  have hne : escapedAmpersand ≠ [] := by decide
  induction t with
  | nil => rfl
  | cons c t ih =>
      by_cases hc : c = '&'
      · calc Text.replaceAll escapedAmpersand ['&'] (escapeAmpersands (c :: t))
            = Text.replaceAll escapedAmpersand ['&'] (escapedAmpersand ++ escapeAmpersands t) := by
              rw [hc, escapeAmpersands_cons_ampersand]
          _ = ['&'] ++ Text.replaceAll escapedAmpersand ['&'] (escapeAmpersands t) :=
              Text.replaceAll_append ['&'] hne _
          _ = c :: t := by rw [ih, hc, List.singleton_append]
      · -- an escaped ampersand begins with an ampersand
        have hpre : ¬ escapedAmpersand <+: c :: escapeAmpersands t := by
          rintro ⟨rest, hrest⟩
          exact hc (List.cons.inj hrest).1.symm
        rw [escapeAmpersands_cons_of_ne hc, Text.replaceAll_cons ['&'] hpre, ih]

/-! ## The first opening of a page -/

theorem startsOnce_frameOpening : Text.StartsOnce frameOpening :=
  ⟨'i', frameOpening.tail, rfl, by decide⟩

variable {above source url : Text}

/-- The first opening of a page has the first frame, if its source is closed on the same line. -/
theorem exists_isFirst_of_opening (habove : ¬ frameOpening <:+: above) (hquote : '\x22' ∉ source)
    (hfeed : '\n' ∉ source) (behind : Text) :
    ∃ f : Frame, f.IsFirst (above ++ (frameOpening ++ source ++ ['\x22'] ++ behind)) ∧
      f.source = source := by
  -- the opening stands on the last line of the text above, and its line goes on to the closing
  obtain ⟨ls, before, x, below, hls, hx, hpage⟩ :=
    Text.pieces_append '\n' above (frameOpening ++ source ++ ['\x22'] ++ behind)
  have hclosed : '\n' ∉ frameOpening ++ source ++ ['\x22'] := by
    have hopening : '\n' ∉ frameOpening := by decide
    simp [hopening, hfeed]
  obtain ⟨tail, below', -, hline⟩ := Text.pieces_append_of_not_mem hclosed behind
  obtain ⟨rfl, rfl⟩ : x = frameOpening ++ source ++ ['\x22'] ++ tail ∧ below = below' :=
    List.cons.inj (hx.symm.trans hline)
  -- no line of the text above has the opening
  have hlines : ∀ line ∈ pieces '\n' above, ¬ frameOpening <:+: line := fun line hmem hin =>
    habove (hin.trans (Text.infix_of_mem_lines hmem))
  rw [hls] at hlines
  refine ⟨⟨ls, before, source, tail, below⟩, ⟨?_, ?_, ?_, hquote⟩, rfl⟩
  · rw [hpage]
    simp [Frame.line]
  · rintro line hline ⟨u, v, rfl, -⟩
    exact hlines _ (List.mem_append_left _ hline) ⟨u, v, by rw [List.append_assoc]⟩
  · exact startsOnce_frameOpening.firstAt_iff.mpr (hlines before (by simp))

/-! ## The frame of an escaped source -/

/-- **A source is read as it was before it was escaped.** A page has the escaped source between
quotation marks, on a line that begins with the opening, and no opening above this line. Then the
frame of the page is what the source refers to from the URL that was asked for; if it refers to
nothing, the failure shows the source, and an unreadable URL is reported as for any other source. -/
theorem frameUrl_escapeAmpersands (hquote : '\x22' ∉ source) (hfeed : '\n' ∉ source)
    (habove : ¬ frameOpening <:+: above) (behind url : Text) :
    frameUrl (above ++ "\n<iframe src=\x22".toList ++ escapeAmpersands source ++ ['\x22'] ++ behind)
        url =
      match Url.read url with
      | .error e => .error (badArchiveUrl url e)
      | .ok base =>
          match base.join source with
          | .error e => .error (badFrameSource source e)
          | .ok u => .ok u.toText := by
  have hopening : ¬ frameOpening <:+: above ++ ['\n', '<'] :=
    Text.not_infix_append_cons (by decide) habove (by decide)
  have hquote' : '\x22' ∉ escapeAmpersands source := not_mem_escapeAmpersands (by decide) hquote
  have hfeed' : '\n' ∉ escapeAmpersands source := not_mem_escapeAmpersands (by decide) hfeed
  obtain ⟨f, hfirst, hf⟩ := exists_isFirst_of_opening hopening hquote' hfeed' behind
  have hsource : frameSource? (above ++ ['\n', '<'] ++
      (frameOpening ++ escapeAmpersands source ++ ['\x22'] ++ behind)) = some source := by
    rw [frameSource?_of_isFirst hfirst, hf, replaceAll_escapeAmpersands]
  have hline : "\n<iframe src=\x22".toList = ['\n', '<'] ++ frameOpening := by decide
  simp only [List.append_assoc] at hsource
  cases hread : Url.read url with
  | error e => simp only [frameUrl, hline, List.append_assoc, hsource, hread]
  | ok base =>
      cases hjoin : base.join source with
      | error e => simp only [frameUrl, hline, List.append_assoc, hsource, hread, hjoin]
      | ok u => simp only [frameUrl, hline, List.append_assoc, hsource, hread, hjoin]

/-- A source that looks escaped, and even escaped twice. -/
def escapedLooking : Text := "list?a&amp;b&amp;amp;c".toList

/-- Its frame in a page: each of its three ampersands is written with an escape. -/
def escapedLookingPage : Text :=
  "<p>\n<iframe src=\x22list?a&amp;amp;b&amp;amp;amp;c\x22>\n<iframe src=\x22d\x22>".toList

theorem frameUrl_escapeAmpersands_escapedLooking :
    frameUrl escapedLookingPage "http://[::1]/".toList =
      .ok "http://[::1]/list?a&amp;b&amp;amp;c".toList := by
  have hpage : escapedLookingPage = "<p>".toList ++ "\n<iframe src=\x22".toList ++
      escapeAmpersands escapedLooking ++ ['\x22'] ++ ">\n<iframe src=\x22d\x22>".toList := by
    decide
  have hquote : '\x22' ∉ escapedLooking := by decide
  have hfeed : '\n' ∉ escapedLooking := by decide
  have habove : ¬ frameOpening <:+: "<p>".toList := by decide
  have hframe := frameUrl_escapeAmpersands hquote hfeed habove
    ">\n<iframe src=\x22d\x22>".toList "http://[::1]/".toList
  rw [← hpage] at hframe
  rw [hframe]
  decide +kernel

end StudioLookup.Archive
