import StudioLookup.Archive.Lookup
import StudioLookup.Proofs.Archive.FirstFrame
import StudioLookup.Proofs.Web.Exchanges

set_option autoImplicit false

/-! # Archive pages behind redirects

The client follows redirects on its own, and the first hop of a lookup does not learn where they
have led: it resolves the source of the frame against the URL that was asked for, whatever the chain
of redirects, and not against the URL at which the page was found (`fetchFrameUrl_of_fetches`). Both
give the same frame when the URLs agree in what the source takes from its base. They always do for a
source that is a full URL, and for a source that names its host as long as no redirect has led from
one scheme to the other. After a redirect to another directory a relative source is looked for in
the wrong one (`fetchFrameUrl_of_moved_page`).
-/

namespace StudioLookup.Archive

open Web

/-- The URL of a frame whose source is found in a page at `base`. -/
def frameAt (base : Url) (source : Text) : Except Failure Text :=
  match base.join source with
  | .ok u => .ok u.toText
  | .error e => .error (badFrameSource source e)

section

variable {net : Network} {agent : Option Text} {asked page source : Text} {base last : Url}
  {via : List Url}

theorem frameUrl_eq_frameAt (hread : Url.read asked = .ok base)
    (hsource : ShowsSource page source) : frameUrl page asked = frameAt base source := by
  unfold frameUrl frameAt
  rw [frameSource?_eq_some_iff.mpr hsource, hread]
  dsimp only
  cases base.join source with
  | ok u => rfl
  | error e => rfl

theorem fetchFrameUrl_eq (h : Fetches net asked base via last page)
    (hsource : ShowsSource page source) :
    fetchFrameUrl net agent asked =
      ⟨frameAt base source, (via ++ [last]).map fun u => ⟨pageKey u, agent⟩⟩ := by
  unfold fetchFrameUrl Exchange.andThen
  rw [h.getText_eq]
  dsimp only [Exchange.done]
  rw [frameUrl_eq_frameAt h.read hsource, List.append_nil]

/-- Bases that agree on the share of a source have the same frame. -/
theorem frameAt_congr (h : Fetches net asked base via last page)
    (hagree : Url.AgreeOn (Url.shareOf base.scheme source) base last) :
    frameAt base source = frameAt last source := by
  obtain ⟨⟨hbase, hauthority⟩, ⟨hlast, hauthority'⟩⟩ := h.shares
  unfold frameAt
  rw [Url.join_congr hbase.schemeKind_eq hlast.schemeKind_eq hauthority hauthority' hagree]

/-- **The frame is resolved against the URL that was asked for.** When the archive page is found at
the end of a chain of redirects, its frame is read as if the page were at the URL `base` the chain
starts from. This is the frame that the page at `last` refers to if the two URLs agree in what the
source takes from them: in particular if it takes nothing, or nothing but the scheme and the scheme
is still the same. -/
theorem fetchFrameUrl_of_fetches (h : Fetches net asked base via last page)
    (hsource : ShowsSource page source) :
    fetchFrameUrl net agent asked =
        ⟨frameAt base source, (via ++ [last]).map fun u => ⟨pageKey u, agent⟩⟩ ∧
      (Url.AgreeOn (Url.shareOf base.scheme source) base last →
        (fetchFrameUrl net agent asked).result = frameAt last source) ∧
      (Url.shareOf base.scheme source = .nothing →
        (fetchFrameUrl net agent asked).result = frameAt last source) ∧
      (Url.shareOf base.scheme source = .scheme → base.scheme = last.scheme →
        (fetchFrameUrl net agent asked).result = frameAt last source) := by
  have heq : fetchFrameUrl net agent asked = _ := fetchFrameUrl_eq h hsource
  have hagree : Url.AgreeOn (Url.shareOf base.scheme source) base last →
      (fetchFrameUrl net agent asked).result = frameAt last source := by
    intro hagree
    rw [heq, ← frameAt_congr h hagree]
  refine ⟨heq, hagree, fun hshare => hagree ?_, fun hshare hscheme => hagree ?_⟩
  · rw [hshare]
    exact trivial
  · rw [hshare]
    exact hscheme

end

/-! ## An archive that has moved -/

/-- The URL of a page in the archive that has moved. -/
def movedUrl (path : Text) : Url :=
  ⟨"http".toList, some ⟨none, .ipv6 [0, 0, 0, 0, 0, 0, 0, 1], none⟩, path, none, none⟩

theorem scheme_movedUrl (path : Text) : (movedUrl path).scheme = "http".toList := rfl

/-- The answer at the place that the archive page has left. -/
def leftPage : Page := ⟨301, [("location".toList, "/new/".toList)], [], .whole⟩

/-- The answer with a page in ASCII. -/
def shownPage (page : Text) : Page :=
  ⟨200, [], page.map fun c => UInt8.ofNat c.toNat, .whole⟩

/-- The archive page was at `/old/` and is at `/new/` now. -/
def movedArchive (page : Text) : Network :=
  .serving [("http://[::1]/old/".toList, leftPage), ("http://[::1]/new/".toList, shownPage page)]

theorem serves_leftPage (page : Text) :
    Serves (movedArchive page) (movedUrl "/old/".toList) leftPage :=
  ⟨rfl, .inl rfl⟩

theorem leadsTo_leftPage : leftPage.LeadsTo (movedUrl "/old/".toList) (movedUrl "/new/".toList) :=
  ⟨by decide, "/new/".toList, rfl, rfl⟩

theorem serves_shownPage (page : Text) :
    Serves (movedArchive page) (movedUrl "/new/".toList) (shownPage page) :=
  ⟨rfl, .inl rfl⟩

theorem fetches_movedArchive {page : Text}
    (hpage : page = Text.decodeLossy (shownPage page).body) :
    Fetches (movedArchive page) "http://[::1]/old/".toList (movedUrl "/old/".toList)
      [movedUrl "/old/".toList] (movedUrl "/new/".toList) page where
  read := by rfl
  hasHost := by decide
  isWeb := .inl rfl
  isSendable := by decide
  few := by decide
  redirects := .cons (serves_leftPage page) leadsTo_leftPage (.inl rfl) (.refl _)
  delivers := by
    refine ⟨shownPage page, serves_shownPage page, ?_, ?_, rfl, hpage⟩
    · rintro v ⟨hstatus, -⟩
      exact absurd hstatus (by simp [shownPage])
    · rintro ⟨hstatus, -⟩
      exact absurd hstatus (by simp [shownPage])

/-- A frame whose source names its host is found after the move. -/
theorem fetchFrameUrl_of_fetches_ownHost :
    (fetchFrameUrl (movedArchive "<iframe src=\x22//[::1]/list\x22>".toList) none
        "http://[::1]/old/".toList).result =
      frameAt (movedUrl "/new/".toList) "//[::1]/list".toList := by
  have hpage : "<iframe src=\x22//[::1]/list\x22>".toList =
      Text.decodeLossy (shownPage "<iframe src=\x22//[::1]/list\x22>".toList).body := by rfl
  have hsource : ShowsSource "<iframe src=\x22//[::1]/list\x22>".toList "//[::1]/list".toList :=
    frameSource?_eq_some_iff.mp (by decide +kernel)
  have hscheme : (movedUrl "/old/".toList).scheme = (movedUrl "/new/".toList).scheme :=
    (scheme_movedUrl _).trans (scheme_movedUrl _).symm
  obtain ⟨-, -, -, hright⟩ := fetchFrameUrl_of_fetches (fetches_movedArchive hpage) hsource
  exact hright (by decide +kernel) hscheme

/-- A frame whose source is relative is looked for where the archive page was. -/
theorem fetchFrameUrl_of_moved_page :
    Fetches (movedArchive "<iframe src=\x22list\x22>".toList) "http://[::1]/old/".toList
        (movedUrl "/old/".toList) [movedUrl "/old/".toList] (movedUrl "/new/".toList)
        "<iframe src=\x22list\x22>".toList ∧
      ShowsSource "<iframe src=\x22list\x22>".toList "list".toList ∧
      frameAt (movedUrl "/new/".toList) "list".toList = .ok "http://[::1]/new/list".toList ∧
      (fetchFrameUrl (movedArchive "<iframe src=\x22list\x22>".toList) (some userAgent)
        "http://[::1]/old/".toList).result = .ok "http://[::1]/old/list".toList := by
  have hpage : "<iframe src=\x22list\x22>".toList =
      Text.decodeLossy (shownPage "<iframe src=\x22list\x22>".toList).body := by rfl
  have hsource : ShowsSource "<iframe src=\x22list\x22>".toList "list".toList :=
    frameSource?_eq_some_iff.mp (by decide +kernel)
  have hfetches := fetches_movedArchive hpage
  refine ⟨hfetches, hsource, by rfl, ?_⟩
  rw [fetchFrameUrl_eq hfetches hsource]
  rfl

end StudioLookup.Archive
