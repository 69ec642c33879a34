import StudioLookup.Proofs.Web.Redirects

set_option autoImplicit false

/-! # Exchanges

The client is asked for a text that stands for a URL, and follows a chain of redirects from there.
`Visits` says which pages are visited for any text that is asked for, and how the client arrives.
The main theorem, `getText_arrivals`, is that this decides the exchange. Every text has its visits,
of eleven pages at most. The client makes one request for each of them, also for a page that hangs,
and yields a text exactly when it arrives at a whole page that reports no error. In all other cases
the network has failed, and the message names the text as it was asked for.

Three steps of the client may end with an error, and each error becomes its message by the same
tests in the same order: first of the time, then of a status (`networkFailure_of_isTimeout` and the
lemmas below it). `Fetches` says that the client finds the text of a page, and `getText_eq_ok_iff`
that it yields a text exactly then.
-/

namespace StudioLookup.Web

variable {net : Network} {agent : Option Text} {asked text : Text} {u : Url} {p : Page}

/-! ## What a text asks for -/

/-- The text `asked` stands for the URL `u`, which a request can be made for. -/
def Asks (asked : Text) (u : Url) : Prop :=
  ∃ base, Url.read asked = .ok base ∧ base.hasHost = true ∧ withoutCredentials base = u ∧
    IsWeb u ∧ isSendable u = true

theorem send_of_asks (h : Asks asked u) :
    send net agent asked = follow net agent u 10 u := by
  obtain ⟨base, hread, hhost, rfl, hweb, hsendable⟩ := h
  unfold send sendUrl
  rw [hread]
  dsimp only
  rw [hhost, isPageScheme_iff.mpr hweb, hsendable]
  rfl

/-- A text that no request can be made for is refused without one. -/
theorem send_of_not_asks (net : Network) (agent : Option Text) (h : ∀ u, ¬ Asks asked u) :
    ∃ e : ClientError, e.IsOther ∧ send net agent asked = (.error e, []) := by
  unfold send
  cases hread : Url.read asked with
  | error fault => exact ⟨.unreadableUrl, ⟨rfl, rfl⟩, rfl⟩
  | ok base =>
      dsimp only
      unfold sendUrl
      cases hhost : base.hasHost with
      | false => exact ⟨.unusableUrl base, ⟨rfl, rfl⟩, rfl⟩
      | true =>
          have hunfit :
              (isPageScheme (withoutCredentials base) && isSendable (withoutCredentials base)) =
                false := by
            rw [Bool.eq_false_iff]
            intro hfit
            obtain ⟨hpage, hsendable⟩ := Bool.and_eq_true_iff.mp hfit
            exact h _ ⟨base, hread, hhost, rfl, isPageScheme_iff.mp hpage, hsendable⟩
          refine ⟨.unusableUrl (withoutCredentials base), ⟨rfl, rfl⟩, ?_⟩
          dsimp only
          rw [hunfit]
          rfl

/-! ## Visits -/

/-- The URLs whose pages are visited for the text `asked`, in order, and how the client arrives. The
redirects that are followed are among those that may be. -/
inductive Visits (net : Network) (asked : Text) : List Url → Arrival → Prop where
  /-- There is no URL to begin with. -/
  | unasked :
      (∀ u, ¬ Asks asked u) →
      Visits net asked [] .unsent
  /-- No request can be sent for the URL that the last page leads to. -/
  | unsent {u next : Url} {via : List Url} :
      Asks asked u →
      via.length ≤ 10 →
      Redirects net u via next →
      Arrives net (10 - via.length) next .unsent →
      Visits net asked via .unsent
  | chain {u last : Url} {via : List Url} {a : Arrival} :
      Asks asked u →
      via.length ≤ 10 →
      Redirects net u via last →
      Arrives net (10 - via.length) last a →
      a ≠ .unsent →
      Visits net asked (via ++ [last]) a

theorem exists_visits (net : Network) (asked : Text) : ∃ urls a, Visits net asked urls a := by
  by_cases hasks : ∃ u, Asks asked u
  · obtain ⟨u, hu⟩ := hasks
    obtain ⟨via, last, a, hfew, hredirects, harrives⟩ := exists_arrives net 10 u
    by_cases hunsent : a = .unsent
    · subst hunsent
      exact ⟨via, .unsent, .unsent hu hfew hredirects harrives⟩
    · exact ⟨via ++ [last], a, .chain hu hfew hredirects harrives hunsent⟩
  · exact ⟨[], .unsent, .unasked fun u hu => hasks ⟨u, hu⟩⟩

theorem Visits.length_le {urls : List Url} {a : Arrival} (h : Visits net asked urls a) :
    urls.length ≤ 11 := by
  cases h with
  | unasked => exact Nat.zero_le _
  | unsent _ hfew => exact Nat.le_succ_of_le hfew
  | chain _ hfew =>
      rw [List.length_append]
      exact Nat.succ_le_succ hfew

/-- The client has what belongs to the arrival, and has made a request for each page it visits. -/
theorem getText_of_visits (agent : Option Text) {urls : List Url} {a : Arrival}
    (h : Visits net asked urls a) :
    ∃ sent, a.Yields sent ∧
      getText net agent asked = ⟨receive asked sent, urls.map fun u => ⟨pageKey u, agent⟩⟩ := by
  unfold getText
  cases h with
  | unasked hasks =>
      obtain ⟨e, hother, hsend⟩ := send_of_not_asks net agent hasks
      rw [hsend]
      exact ⟨.error e, .unsent hother, rfl⟩
  | @unsent u next via hasks hfew hredirects harrives =>
      obtain ⟨sent, hyields, hlast⟩ := follow_of_arrives agent u harrives
      refine ⟨sent, hyields, ?_⟩
      rw [send_of_asks hasks, follow_of_redirects hredirects hfew, hlast]
      simp
  | @chain u last via a hasks hfew hredirects harrives hunsent =>
      obtain ⟨sent, hyields, hlast⟩ := follow_of_arrives agent u harrives
      refine ⟨sent, hyields, ?_⟩
      rw [send_of_asks hasks, follow_of_redirects hredirects hfew, hlast, if_neg hunsent]
      simp

/-! ## What is received -/

/-- The page has arrived whole, reports no error, and has the text. -/
def Page.HasText (p : Page) (text : Text) : Prop :=
  ¬ (400 ≤ p.status ∧ p.status ≤ 599) ∧ p.delivery = .whole ∧ text = Text.decodeLossy p.body

/-- `phrase` names the status code `code`, which reports an error. -/
def IsPhrase (code : Nat) (phrase : String) : Prop :=
  (code, phrase) ∈ errorPhrases ∨
    (∀ s, (code, s) ∉ errorPhrases) ∧ phrase = "<unknown status code>"

theorem exists_statusPhrase (code : Nat) :
    ∃ phrase, IsPhrase code phrase ∧ statusPhrase code = phrase.toList := by
  unfold statusPhrase
  cases hfind : errorPhrases.find? (·.1 == code) with
  | some e =>
      obtain ⟨code', phrase⟩ := e
      obtain rfl : code' = code := by simpa using List.find?_some hfind
      exact ⟨phrase, .inl (List.mem_of_find?_eq_some hfind), rfl⟩
  | none =>
      refine ⟨_, .inr ⟨fun s hmem => ?_, rfl⟩, rfl⟩
      simpa using List.find?_eq_none.mp hfind _ hmem

/-! Whatever else an error says, that time has run out is what is reported; then comes a status, and
only without either the text of the error. -/

theorem networkFailure_of_isTimeout {e : ClientError} (htimeout : e.isTimeout = true) :
    networkFailure asked e =
      .ofKind .network ("request to ".toList ++ asked ++ " timed out".toList) := by
  rw [networkFailure, if_pos htimeout]

theorem networkFailure_of_status {e : ClientError} {code : Nat} (htimeout : e.isTimeout = false)
    (hcode : e.status? = some code) :
    ∃ phrase, IsPhrase code phrase ∧ networkFailure asked e =
      .ofKind .network ("HTTP ".toList ++ (Text.decimal code ++ ' ' :: phrase.toList) ++
        " for ".toList ++ asked) := by
  obtain ⟨phrase, hphrase, heq⟩ := exists_statusPhrase code
  refine ⟨phrase, hphrase, ?_⟩
  rw [networkFailure, if_neg (Bool.eq_false_iff.mp htimeout), hcode, ← heq]
  rfl

theorem networkFailure_of_isOther {e : ClientError} (hother : e.IsOther) :
    networkFailure asked e =
      .ofKind .network ("request to ".toList ++ asked ++ " failed: ".toList ++ e.text) := by
  obtain ⟨htimeout, hcode⟩ := hother
  rw [networkFailure, if_neg (Bool.eq_false_iff.mp htimeout), hcode]

theorem isErrorStatus_iff {code : Nat} : isErrorStatus code = true ↔ 400 ≤ code ∧ code ≤ 599 := by
  simp [isErrorStatus]

/-- The status of a page is looked at before its body. -/
theorem receive_page (asked : Text) (u : Url) (p : Page) :
    receive asked (.ok ⟨u, p⟩) =
      if 400 ≤ p.status ∧ p.status ≤ 599 then
        .error (networkFailure asked (.ofStatus u p.status))
      else if p.delivery = .cutShort then .error (networkFailure asked .bodyCutShort)
      else .ok (Text.decodeLossy p.body) := by
  have hsteps : receive asked (.ok ⟨u, p⟩) =
      ((Response.mk u p).withoutError.mapError (networkFailure asked)).bind
        fun r => r.text.mapError (networkFailure asked) := rfl
  rw [hsteps, Response.withoutError]
  by_cases hstatus : 400 ≤ p.status ∧ p.status ≤ 599
  · rw [if_pos hstatus, if_pos (isErrorStatus_iff.mpr hstatus)]
    rfl
  · rw [if_neg hstatus, if_neg ((not_congr isErrorStatus_iff).mpr hstatus)]
    change (Response.text ⟨u, p⟩).mapError (networkFailure asked) = _
    rw [Response.text]
    by_cases hcut : p.delivery = .cutShort
    · rw [if_pos hcut, if_pos hcut]
      rfl
    · rw [if_neg hcut, if_neg hcut]
      rfl

section

variable {a : Arrival} {sent : Except ClientError Response}

/-- A text is received only by arriving at a page that has it. -/
theorem receive_eq_ok_iff (h : a.Yields sent) :
    receive asked sent = .ok text ↔ ∃ p, a = .page p ∧ p.HasText text := by
  constructor
  · intro hreceive
    cases h with
    | @page p u hdelivery =>
        rw [receive_page] at hreceive
        split at hreceive
        · cases hreceive
        · rename_i hstatus
          split at hreceive
          · cases hreceive
          · rename_i hcut
            cases hreceive
            exact ⟨p, rfl, hstatus, hdelivery.resolve_right hcut, rfl⟩
    | hanging => cases hreceive
    | lost => cases hreceive
    | unsent => cases hreceive
  · rintro ⟨p, rfl, hstatus, hwhole, rfl⟩
    cases h with
    | @page p u hdelivery =>
        rw [receive_page, if_neg hstatus, if_neg (by rw [hwhole]; decide)]

/-- A failure that is received shows how the client has arrived. -/
theorem receive_eq_error {failure : Failure} (h : a.Yields sent)
    (hreceive : receive asked sent = .error failure) :
    ∃ e, failure = networkFailure asked e ∧
      ((a = .hanging ∧ e.isTimeout = true) ∨
        (∃ p, a = .page p ∧ (400 ≤ p.status ∧ p.status ≤ 599) ∧ e.isTimeout = false ∧
          e.status? = some p.status) ∨
        (a ≠ .hanging ∧ (∀ p, a = .page p → ¬ (400 ≤ p.status ∧ p.status ≤ 599)) ∧
          e.IsOther)) := by
  cases h with
  | @page p u hdelivery =>
      rw [receive_page] at hreceive
      split at hreceive
      · rename_i hstatus
        cases hreceive
        exact ⟨_, rfl, .inr (.inl ⟨p, rfl, hstatus, rfl, rfl⟩)⟩
      · rename_i hstatus
        split at hreceive
        · cases hreceive
          refine ⟨_, rfl, .inr (.inr ⟨nofun, ?_, rfl, rfl⟩)⟩
          rintro q ⟨⟩
          exact hstatus
        · cases hreceive
  | hanging htimeout =>
      cases hreceive
      exact ⟨_, rfl, .inl ⟨rfl, htimeout⟩⟩
  | lost hother =>
      cases hreceive
      exact ⟨_, rfl, .inr (.inr ⟨nofun, nofun, hother⟩)⟩
  | unsent hother =>
      cases hreceive
      exact ⟨_, rfl, .inr (.inr ⟨nofun, nofun, hother⟩)⟩

end

/-! ## How an exchange ends -/

/-- **The arrival decides the exchange.** Every text has its visits, and the client makes one
request for each of the pages, in order. It yields a text exactly when it arrives at a whole page
that does not report an error, and then the text of this page. Any other exchange is a fault of the
network. Its message says that the page at the end hangs, or which error this page reports, and else
that the request has failed; it always names the text that was asked for. -/
theorem getText_arrivals (net : Network) (agent : Option Text) (asked : Text) :
    (∃ urls a, Visits net asked urls a) ∧
      ∀ urls a, Visits net asked urls a →
        urls.length ≤ 11 ∧
        (getText net agent asked).requests = (urls.map fun u => ⟨pageKey u, agent⟩) ∧
        (∀ text, (getText net agent asked).result = .ok text ↔
          ∃ p, a = .page p ∧ ¬ (400 ≤ p.status ∧ p.status ≤ 599) ∧ p.delivery = .whole ∧
            text = Text.decodeLossy p.body) ∧
        ∀ e, (getText net agent asked).result = .error e →
          ∃ message, e = .ofKind .network message ∧
            ((a = .hanging ∧ message = "request to ".toList ++ asked ++ " timed out".toList) ∨
              (∃ p phrase, a = .page p ∧ (400 ≤ p.status ∧ p.status ≤ 599) ∧
                IsPhrase p.status phrase ∧
                message = "HTTP ".toList ++ (Text.decimal p.status ++ ' ' :: phrase.toList) ++
                  " for ".toList ++ asked) ∨
              (a ≠ .hanging ∧ (∀ p, a = .page p → ¬ (400 ≤ p.status ∧ p.status ≤ 599)) ∧
                ∃ reason, message =
                  "request to ".toList ++ asked ++ " failed: ".toList ++ reason)) := by
  refine ⟨exists_visits net asked, fun urls a hvisits => ?_⟩
  obtain ⟨sent, hyields, heq⟩ := getText_of_visits agent hvisits
  rw [heq]
  refine ⟨hvisits.length_le, rfl, fun text => receive_eq_ok_iff hyields, fun failure herror => ?_⟩
  obtain ⟨e, rfl, harrival⟩ := receive_eq_error hyields herror
  rcases harrival with ⟨ha, htimeout⟩ | ⟨p, ha, hstatus, htimeout, hcode⟩ | ⟨ha, hnone, hother⟩
  · exact ⟨_, networkFailure_of_isTimeout htimeout, .inl ⟨ha, rfl⟩⟩
  · obtain ⟨phrase, hphrase, hfailure⟩ := networkFailure_of_status htimeout hcode
    exact ⟨_, hfailure, .inr (.inl ⟨p, phrase, ha, hstatus, hphrase, rfl⟩)⟩
  · exact ⟨_, networkFailure_of_isOther hother, .inr (.inr ⟨ha, hnone, e.text, rfl⟩)⟩

/-- A page that leads to itself is requested eleven times. -/
example : (getText
    (.serving [("http://[::1]/".toList, ⟨302, [("location".toList, "/".toList)], [], .whole⟩)]) none
    "http://[::1]/".toList).requests = List.replicate 11 ⟨"http://[::1]/".toList, none⟩ := by
  decide +kernel

/-! ## What the client fetches -/

/-- The client that is asked for the text `asked`, which is the URL `base`, is sent on from the URLs
`via` and finds the text of a page at `last`. -/
structure Fetches (net : Network) (asked : Text) (base : Url) (via : List Url) (last : Url)
    (text : Text) : Prop where
  read : Url.read asked = .ok base
  hasHost : base.hasHost = true
  isWeb : IsWeb (withoutCredentials base)
  isSendable : isSendable (withoutCredentials base) = true
  few : via.length ≤ 10
  redirects : Redirects net (withoutCredentials base) via last
  delivers : ∃ p, Serves net last p ∧ (∀ v, ¬ p.LeadsTo last v) ∧ p.HasText text

/-- **The client yields the text at the end of a chain**, and has made a request for each URL of it,
in order. -/
theorem getText_eq_ok_iff {requests : List Request} :
    getText net agent asked = ⟨.ok text, requests⟩ ↔
      ∃ base via last, Fetches net asked base via last text ∧
        requests = (via ++ [last]).map fun v => ⟨pageKey v, agent⟩ := by
  constructor
  · intro h
    obtain ⟨urls, a, hvisits⟩ := exists_visits net asked
    obtain ⟨sent, hyields, heq⟩ := getText_of_visits agent hvisits
    rw [h] at heq
    obtain ⟨hreceive, rfl⟩ := Exchange.mk.inj heq
    obtain ⟨p, rfl, htext⟩ := (receive_eq_ok_iff hyields).mp hreceive.symm
    cases hvisits with
    | @chain _ last via _ hasks hfew hredirects harrives =>
        obtain ⟨base, hread, hhost, rfl, hweb, hsendable⟩ := hasks
        cases harrives with
        | page hserves hnone =>
            exact ⟨base, via, last, ⟨hread, hhost, hweb, hsendable, hfew, hredirects,
              p, hserves, hnone, htext⟩, rfl⟩
  · rintro ⟨base, via, last, ⟨hread, hhost, hweb, hsendable, hfew, hredirects,
      p, hserves, hnone, htext⟩, rfl⟩
    have hvisits : Visits net asked (via ++ [last]) (.page p) :=
      .chain ⟨base, hread, hhost, rfl, hweb, hsendable⟩ hfew hredirects (.page hserves hnone) nofun
    obtain ⟨sent, hyields, heq⟩ := getText_of_visits agent hvisits
    rw [heq, (receive_eq_ok_iff hyields).mpr ⟨p, rfl, htext⟩]

/-- A URL without its credentials is the same but for those. -/
theorem withoutCredentials_cases (u : Url) :
    withoutCredentials u = u ∨ ∃ a, u.authority = some a ∧
      withoutCredentials u = { u with authority := some { a with credentials := none } } := by
  unfold withoutCredentials
  split
  · exact Or.inl rfl
  · rename_i a hauthority
    split
    · exact Or.inl rfl
    · dsimp only
      split
      · exact Or.inr ⟨a, hauthority, rfl⟩
      · exact Or.inl rfl

namespace Fetches

variable {base last : Url} {via : List Url}

theorem getText_eq (h : Fetches net asked base via last text) :
    getText net agent asked =
      ⟨.ok text, (via ++ [last]).map fun v => ⟨pageKey v, agent⟩⟩ :=
  getText_eq_ok_iff.mpr ⟨base, via, last, h, rfl⟩

/-- The page at the end has a scheme of the web, as the URL that was asked for, and both have an
authority. -/
theorem shares (h : Fetches net asked base via last text) :
    (IsWeb base ∧ base.authority.isSome = true) ∧ (IsWeb last ∧ last.authority.isSome = true) := by
  have hhost : base.authority.isSome = true := by
    have hhas := h.hasHost
    unfold Url.hasHost at hhas
    cases hauthority : base.authority with
    | none =>
        rw [hauthority] at hhas
        cases hhas
    | some a => rfl
  obtain ⟨hscheme, hauthority⟩ : (withoutCredentials base).scheme = base.scheme ∧
      (withoutCredentials base).authority.isSome = true := by
    rcases withoutCredentials_cases base with heq | ⟨a, -, heq⟩
    · rw [heq]
      exact ⟨rfl, hhost⟩
    · rw [heq]
      exact ⟨rfl, rfl⟩
  have hweb : IsWeb base := by
    have hweb' := h.isWeb
    unfold IsWeb at hweb' ⊢
    rwa [hscheme] at hweb'
  exact ⟨⟨hweb, hhost⟩, h.redirects.isWeb h.isWeb hauthority⟩

end Fetches

end StudioLookup.Web
