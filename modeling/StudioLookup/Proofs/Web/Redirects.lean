import StudioLookup.Proofs.Url.References
import StudioLookup.Web.Client

set_option autoImplicit false

/-! # Chains of redirects

The client is sent from page to page until it arrives: at a page that sends it nowhere else, or
where no page can be read. `Page.LeadsTo` is the rule by which a page sends the client on,
`Redirects` is a chain of such pages, with the URLs that are left behind as its labels, and
`Arrives` says how a chain ends. All of them speak of pages only, and not of the client.

Every chain has an end, since only so many redirects are followed (`exists_arrives`). The client
makes one request for each URL on its way (`follow_of_redirects`), and at the end it has what
belongs to the arrival: the page, or an error (`follow_of_arrives`).
-/

namespace StudioLookup.Web

variable {net : Network} {agent : Option Text} {first u v w : Url} {p : Page} {text : Text}

/-! ## Where a page leads -/

/-- The page at `u` sends the client on to `v`. -/
def Page.LeadsTo (p : Page) (u v : Url) : Prop :=
  p.status ∈ [301, 302, 303, 307, 308] ∧
    ∃ location, p.header? "location".toList = some location ∧ u.join location = .ok v

theorem redirectTarget?_eq_some_iff : redirectTarget? u p = some v ↔ p.LeadsTo u v := by
  unfold redirectTarget? Page.LeadsTo isRedirectStatus
  rw [← List.contains_iff_mem]
  cases [301, 302, 303, 307, 308].contains p.status with
  | false => simp
  | true =>
      cases p.header? "location".toList with
      | none => simp
      | some location =>
          cases hjoin : u.join location with
          | ok target => simp [hjoin]
          | error e => simp [hjoin]

theorem redirectTarget?_eq_none_iff : redirectTarget? u p = none ↔ ∀ v, ¬ p.LeadsTo u v := by
  rw [Option.eq_none_iff_forall_ne_some]
  exact forall_congr' fun v => not_congr redirectTarget?_eq_some_iff

/-- Pages are fetched by the scheme of the URL. -/
def IsWeb (u : Url) : Prop := u.scheme = "http".toList ∨ u.scheme = "https".toList

theorem isPageScheme_iff : isPageScheme u = true ↔ IsWeb u := by
  rw [isPageScheme, Bool.or_eq_true_iff, beq_iff_eq, beq_iff_eq]
  exact Iff.rfl

theorem isPageScheme_eq_false_iff : isPageScheme u = false ↔ ¬ IsWeb u := by
  rw [← isPageScheme_iff, Bool.not_eq_true]

theorem IsWeb.schemeKind_eq (h : IsWeb u) : Url.schemeKind u.scheme = .web := by
  rcases h with hscheme | hscheme
  · rw [hscheme]
    decide
  · rw [hscheme]
    decide

/-- A request for the page of `u` is answered by `p`, whole or cut short. -/
def Serves (net : Network) (u : Url) (p : Page) : Prop :=
  net.answer? (pageKey u) = some p ∧ (p.delivery = .whole ∨ p.delivery = .cutShort)

/-- The client is sent on from each of the URLs in the list to the next, and from the last of them
to the URL at the end. -/
inductive Redirects (net : Network) : Url → List Url → Url → Prop where
  | refl (u : Url) : Redirects net u [] u
  | cons {u v w : Url} {p : Page} {via : List Url} :
      Serves net u p →
      p.LeadsTo u v →
      IsWeb v →
      Redirects net v via w →
      Redirects net u (u :: via) w

/-! ## The end of a chain -/

/-- How the last URL of a chain is found. -/
inductive Arrival where
  /-- It has a page, which sends the client nowhere else. -/
  | page (p : Page)
  /-- It has a page whose answer never comes. -/
  | hanging
  /-- It has no page to read: the connection is closed, or the page is a redirect that is not
  followed. -/
  | lost
  /-- No request for it can be sent. -/
  | unsent
  deriving DecidableEq, Repr

/-- The client goes no further than `u`, with `left` more redirects to follow. -/
inductive Arrives (net : Network) (left : Nat) (u : Url) : Arrival → Prop where
  | page {p : Page} :
      Serves net u p →
      (∀ v, ¬ p.LeadsTo u v) →
      Arrives net left u (.page p)
  | hanging {p : Page} :
      net.answer? (pageKey u) = some p →
      p.delivery = .never →
      Arrives net left u .hanging
  | closed {p : Page} :
      net.answer? (pageKey u) = some p →
      p.delivery = .reset →
      Arrives net left u .lost
  /-- The page is one redirect too many, or leads to where there are no pages. -/
  | notFollowed {p : Page} {v : Url} :
      Serves net u p →
      p.LeadsTo u v →
      left = 0 ∨ ¬ IsWeb v →
      Arrives net left u .lost
  | unsent :
      net.answer? (pageKey u) = none →
      Arrives net left u .unsent

theorem arrives_or_redirected_of_serves (left : Nat) (h : Serves net u p) :
    (∃ a, Arrives net left u a) ∨
      ∃ p v, Serves net u p ∧ p.LeadsTo u v ∧ IsWeb v ∧ left ≠ 0 := by
  by_cases hleads : ∃ v, p.LeadsTo u v
  · obtain ⟨v, hv⟩ := hleads
    by_cases hleft : left = 0
    · exact .inl ⟨.lost, .notFollowed h hv (.inl hleft)⟩
    · by_cases hweb : IsWeb v
      · exact .inr ⟨p, v, h, hv, hweb, hleft⟩
      · exact .inl ⟨.lost, .notFollowed h hv (.inr hweb)⟩
  · exact .inl ⟨.page p, .page h (not_exists.mp hleads)⟩

/-- The client goes no further, or is sent on by a redirect that it may follow. -/
theorem arrives_or_redirected (net : Network) (left : Nat) (u : Url) :
    (∃ a, Arrives net left u a) ∨
      ∃ p v, Serves net u p ∧ p.LeadsTo u v ∧ IsWeb v ∧ left ≠ 0 := by
  cases hanswer : net.answer? (pageKey u) with
  | none => exact .inl ⟨.unsent, .unsent hanswer⟩
  | some p =>
      cases hdelivery : p.delivery with
      | whole => exact arrives_or_redirected_of_serves left ⟨hanswer, .inl hdelivery⟩
      | cutShort => exact arrives_or_redirected_of_serves left ⟨hanswer, .inr hdelivery⟩
      | reset => exact .inl ⟨.lost, .closed hanswer hdelivery⟩
      | never => exact .inl ⟨.hanging, .hanging hanswer hdelivery⟩

/-- A chain comes to an end, also where redirects lead in a circle. -/
theorem exists_arrives (net : Network) (left : Nat) (u : Url) :
    ∃ via last a, via.length ≤ left ∧ Redirects net u via last ∧
      Arrives net (left - via.length) last a := by
  -- pages may repeat on the chain, but each redirect is one less that may be followed
  induction left generalizing u with
  | zero =>
      obtain ⟨a, harrives⟩ | ⟨p, v, -, -, -, hleft⟩ := arrives_or_redirected net 0 u
      · exact ⟨[], u, a, Nat.le_refl 0, .refl u, harrives⟩
      · exact absurd rfl hleft
  | succ left ih =>
      obtain ⟨a, harrives⟩ | ⟨p, v, hserves, hleads, hweb, -⟩ :=
        arrives_or_redirected net (left + 1) u
      · exact ⟨[], u, a, Nat.zero_le _, .refl u, harrives⟩
      · obtain ⟨via, last, a, hfew, hredirects, harrives⟩ := ih v
        refine ⟨u :: via, last, a, Nat.succ_le_succ hfew,
          .cons hserves hleads hweb hredirects, ?_⟩
        rw [List.length_cons, Nat.add_sub_add_right]
        exact harrives

/-! ## What the client has at the end -/

/-- The error has to do neither with time nor with a status. -/
def ClientError.IsOther (e : ClientError) : Prop := e.isTimeout = false ∧ e.status? = none

/-- What the client has when it arrives. Only a page that hangs lets the time run out. -/
inductive Arrival.Yields : Arrival → Except ClientError Response → Prop where
  | page {p : Page} {u : Url} :
      p.delivery = .whole ∨ p.delivery = .cutShort →
      Yields (.page p) (.ok ⟨u, p⟩)
  | hanging {e : ClientError} : e.isTimeout = true → Yields .hanging (.error e)
  | lost {e : ClientError} : e.IsOther → Yields .lost (.error e)
  | unsent {e : ClientError} : e.IsOther → Yields .unsent (.error e)

/-- A page that is served ends the chain, is one too many, or leads on. -/
theorem follow_of_serves (left : Nat) (h : Serves net u p) :
    follow net agent first left u =
      match redirectTarget? u p, left with
      | none, _ => (.ok ⟨u, p⟩, [⟨pageKey u, agent⟩])
      | some _, 0 => (.error (.tooManyRedirects u), [⟨pageKey u, agent⟩])
      | some v, left + 1 =>
          if isPageScheme v then
            ((follow net agent first left v).1,
              ⟨pageKey u, agent⟩ :: (follow net agent first left v).2)
          else (.error (.unusableUrl v), [⟨pageKey u, agent⟩]) := by
  obtain ⟨hanswer, hserved⟩ := h
  rw [follow, hanswer]
  dsimp only
  cases hdelivery : p.delivery with
  | whole => cases redirectTarget? u p <;> cases left <;> rfl
  | cutShort => cases redirectTarget? u p <;> cases left <;> rfl
  | reset => simp [hdelivery] at hserved
  | never => simp [hdelivery] at hserved

/-- The client passes on through a chain for which enough redirects are left. It makes a request for
each URL that it leaves behind, and all else is as if it had started at the end. -/
theorem follow_of_redirects {via : List Url} (h : Redirects net u via w) {left : Nat}
    (hfew : via.length ≤ left) :
    follow net agent first left u =
      ((follow net agent first (left - via.length) w).1,
        via.map (fun v => ⟨pageKey v, agent⟩) ++
          (follow net agent first (left - via.length) w).2) := by
  induction h generalizing left with
  | refl u => rfl
  | @cons u v w p via hserves hleads hweb hredirects ih =>
      obtain ⟨left, rfl⟩ : ∃ n, left = n + 1 := ⟨left - 1, by simp at hfew; omega⟩
      rw [follow_of_serves (left + 1) hserves, redirectTarget?_eq_some_iff.mpr hleads]
      dsimp only
      rw [if_pos (isPageScheme_iff.mpr hweb), ih (Nat.le_of_succ_le_succ hfew), List.length_cons,
        Nat.add_sub_add_right]
      rfl

theorem follow_of_unsent (left : Nat) (h : net.answer? (pageKey u) = none) :
    follow net agent first left u = (.error (.notSent first), []) := by
  rw [follow, h]

theorem follow_of_hanging (left : Nat) (h : net.answer? (pageKey u) = some p)
    (hdelivery : p.delivery = .never) :
    follow net agent first left u = (.error (.timedOut first), [⟨pageKey u, agent⟩]) := by
  rw [follow, h]
  dsimp only
  rw [hdelivery]

theorem follow_of_closed (left : Nat) (h : net.answer? (pageKey u) = some p)
    (hdelivery : p.delivery = .reset) :
    follow net agent first left u = (.error (.notSent first), [⟨pageKey u, agent⟩]) := by
  rw [follow, h]
  dsimp only
  rw [hdelivery]

/-- At the end of its way the client has what belongs to the arrival, and has made a request for the
last URL unless none can be sent. -/
theorem follow_of_arrives (agent : Option Text) (first : Url) {left : Nat} {a : Arrival}
    (h : Arrives net left u a) :
    ∃ r, a.Yields r ∧
      follow net agent first left u = (r, if a = .unsent then [] else [⟨pageKey u, agent⟩]) := by
  cases h with
  | @page p hserves hnone =>
      refine ⟨.ok ⟨u, p⟩, .page hserves.2, ?_⟩
      rw [follow_of_serves left hserves, redirectTarget?_eq_none_iff.mpr hnone]
      rfl
  | hanging hanswer hdelivery =>
      exact ⟨.error (.timedOut first), .hanging rfl, follow_of_hanging left hanswer hdelivery⟩
  | closed hanswer hdelivery =>
      exact ⟨.error (.notSent first), .lost ⟨rfl, rfl⟩, follow_of_closed left hanswer hdelivery⟩
  | @notFollowed p v hserves hleads hstop =>
      rw [follow_of_serves left hserves, redirectTarget?_eq_some_iff.mpr hleads]
      cases left with
      | zero => exact ⟨.error (.tooManyRedirects u), .lost ⟨rfl, rfl⟩, rfl⟩
      | succ left =>
          have hweb : ¬ IsWeb v := hstop.resolve_left (Nat.succ_ne_zero left)
          refine ⟨.error (.unusableUrl v), .lost ⟨rfl, rfl⟩, ?_⟩
          dsimp only
          rw [isPageScheme_eq_false_iff.mpr hweb]
          rfl
  | unsent hanswer =>
      exact ⟨.error (.notSent first), .unsent ⟨rfl, rfl⟩, follow_of_unsent left hanswer⟩

/-! ## URLs on a chain -/

/-- A chain that starts at a page with an authority ends at one. -/
theorem Redirects.isWeb {via : List Url} (h : Redirects net u via w) (hweb : IsWeb u)
    (hauthority : u.authority.isSome = true) : IsWeb w ∧ w.authority.isSome = true := by
  induction h with
  | refl u => exact ⟨hweb, hauthority⟩
  | cons hserves hleads hweb' hredirects ih =>
      obtain ⟨-, location, -, hjoin⟩ := hleads
      exact ih hweb' (Url.authority_isSome_of_join hweb.schemeKind_eq hauthority hjoin
        hweb'.schemeKind_eq)

end StudioLookup.Web
