import StudioLookup.Url.Reading

set_option autoImplicit false

/-! # What a reference takes from its base

A reference that is found in a page is read from the URL of the page, and takes from it what it
leaves out itself: nothing when it is a full URL, the scheme when it begins with its host, the
authority as well when its path begins at the root, the directory when it does not, the whole path
when it is a query, and the query, too, when it is a fragment or empty (`shareOf`). Two bases in the
schemes of the web that agree so far give the same URL (`join_congr`).

This needs both bases to have an authority, which URLs in the schemes of the web always have: what
is read from a base with an authority has one again (`authority_isSome_of_join`).
-/

namespace StudioLookup.Url

/-! ## Authorities -/

theorem withPath_authority (u : Url) (before t : Text) :
    (u.withPath before t).authority = u.authority := rfl

/-- What is read behind the slashes of an authority has one. -/
theorem readAuthority_eq_ok {scheme t : Text} {u : Url} (h : readAuthority scheme t = .ok u) :
    u.scheme = scheme ∧ u.authority.isSome = true := by
  unfold readAuthority at h
  cases hauthority : authorityOf scheme t with
  | error e =>
      rw [hauthority] at h
      cases h
  | ok read =>
      rw [hauthority] at h
      dsimp only [bind, Except.bind, pure, Except.pure] at h
      split at h
      · split at h
        · cases h
          exact ⟨rfl, rfl⟩
        · cases h
          split
          · exact ⟨rfl, rfl⟩
          · exact ⟨rfl, rfl⟩
      · split at h
        · cases h
          exact ⟨rfl, rfl⟩
        · cases h
          exact ⟨rfl, rfl⟩

theorem authority_isSome_of_readFileHost {t : Text} {u : Url} (h : readFileHost t = .ok u) :
    u.authority.isSome = true := by
  have hfile : ∀ (drive : Bool) (a : Authority),
      (if drive = true then localFile
        else { localFile with authority := some a }).authority.isSome = true := by
    intro drive a
    cases drive <;> rfl
  unfold readFileHost at h
  dsimp only [bind, Except.bind, pure, Except.pure] at h
  split at h
  · cases h
    rfl
  · cases hhost : Host.ofWeb (t.takeWhile (!endsAuthority .file ·)) with
    | error e =>
        rw [hhost] at h
        cases h
    | ok host =>
        rw [hhost] at h
        dsimp only at h
        split at h
        · cases h
          rfl
        · cases h
          rw [withPath_authority]
          exact hfile _ _

/-- A file that is read without a base has an authority, which may be empty. -/
theorem authority_isSome_of_readFile {t : Text} {u : Url} (h : readFile none t = .ok u) :
    u.authority.isSome = true := by
  unfold readFile at h
  split at h
  · split at h
    · split at h
      · exact authority_isSome_of_readFileHost h
      · cases h
        rfl
    · cases h
      rfl
  · split at h
    · cases h
      rfl
    · cases h
      rfl
  · cases h
    rfl

theorem scheme_of_readOther {scheme t : Text} {u : Url} (h : readOther scheme t = .ok u) :
    u.scheme = scheme := by
  unfold readOther at h
  split at h
  · exact (readAuthority_eq_ok h).1
  · cases h
    rfl
  · cases h
    rfl

theorem authority_isSome_of_readRelative {base u : Url} {t : Text}
    (hbase : base.authority.isSome = true) (h : readRelative base t = .ok u) :
    u.authority.isSome = true := by
  unfold readRelative at h
  split at h
  · cases h
    exact hbase
  · cases h
    exact hbase
  · cases h
    exact hbase
  · split at h
    · split at h
      · split at h
        · exact (readAuthority_eq_ok h).2
        · cases h
          exact hbase
      · cases h
        exact hbase
    · cases h
      exact hbase

section

variable {base base' u : Url} {t : Text}

theorem isOpaque_of_authority (h : base.authority.isSome = true) : base.isOpaque = false := by
  unfold isOpaque
  rw [← Option.not_isSome, h]
  rfl

theorem sameScheme_some (base : Url) (scheme : Text) :
    sameScheme (some base) scheme = if base.scheme = scheme then some base else none := by
  unfold sameScheme
  by_cases hscheme : base.scheme = scheme
  · simp [hscheme]
  · simp [hscheme]

/-- **URLs in the schemes of the web have an authority**, when they are found in a page that has
one. -/
theorem authority_isSome_of_join (hweb : schemeKind base.scheme = .web)
    (hbase : base.authority.isSome = true) (h : base.join t = .ok u)
    (hu : schemeKind u.scheme = .web) : u.authority.isSome = true := by
  unfold join readFrom at h
  split at h
  · rename_i scheme rest _
    unfold readWithScheme at h
    split at h
    · rename_i hfile
      have hne : base.scheme ≠ scheme := by
        rintro rfl
        rw [hweb] at hfile
        cases hfile
      rw [sameScheme_some, if_neg hne] at h
      exact authority_isSome_of_readFile h
    · rename_i hother
      rw [scheme_of_readOther h, hother] at hu
      cases hu
    · rw [sameScheme_some] at h
      by_cases hscheme : base.scheme = scheme
      · rw [if_pos hscheme] at h
        dsimp only at h
        split at h
        · exact authority_isSome_of_readRelative hbase h
        · exact (readAuthority_eq_ok h).2
      · rw [if_neg hscheme] at h
        exact (readAuthority_eq_ok h).2
  · unfold readWithoutScheme at h
    dsimp only at h
    split at h
    · cases h
      exact hbase
    · rw [isOpaque_of_authority hbase, hweb] at h
      exact authority_isSome_of_readRelative hbase h

/-! ## Shares -/

/-- How much of its base a reference takes. -/
inductive Share where
  | nothing
  | scheme
  | authority
  | directory
  | path
  | page
  deriving DecidableEq, Repr

/-- What a reference without scheme takes from a base in a scheme of the web. -/
def relativeShare : Text → Share
  | [] => .page
  | '#' :: _ => .page
  | '?' :: _ => .path
  | c :: rest =>
      if isSlash c then
        match rest with
        | d :: _ => if isSlash d then .scheme else .authority
        | [] => .authority
      else .directory

/-- What a reference takes from a base with the given scheme, one of the web. A reference with a
scheme of the web takes nothing if two slashes follow. With fewer of them it is relative to a base
in its scheme, so that it takes at least this. -/
def shareOf (scheme t : Text) : Share :=
  match splitScheme? (cleaned t) with
  | some (scheme', rest) =>
      if schemeKind scheme' ≠ .web ∨ 2 ≤ (rest.takeWhile isSlash).length then .nothing
      else if scheme = scheme' then relativeShare rest
      else .scheme
  | none => relativeShare (cleaned t)

/-- Two URLs are the same in what a share covers. -/
def AgreeOn : Share → Url → Url → Prop
  | .nothing, _, _ => True
  | .scheme, u, v => u.scheme = v.scheme
  | .authority, u, v => u.scheme = v.scheme ∧ u.authority = v.authority
  | .directory, u, v => u.scheme = v.scheme ∧ u.authority = v.authority ∧
      dropSegment .web u.path = dropSegment .web v.path
  | .path, u, v => u.scheme = v.scheme ∧ u.authority = v.authority ∧ u.path = v.path
  | .page, u, v => u.scheme = v.scheme ∧ u.authority = v.authority ∧ u.path = v.path ∧
      u.query = v.query

theorem relativeShare_ne_nothing (t : Text) : relativeShare t ≠ .nothing := by
  fun_cases relativeShare t <;> nofun

theorem AgreeOn.scheme_eq {share : Share} {u v : Url} (h : AgreeOn share u v)
    (hshare : share ≠ .nothing) : u.scheme = v.scheme := by
  cases share with
  | nothing => exact absurd rfl hshare
  | scheme => exact h
  | authority => exact h.1
  | directory => exact h.1
  | path => exact h.1
  | page => exact h.1

theorem AgreeOn.refl (share : Share) (u : Url) : AgreeOn share u u := by
  cases share <;> simp [AgreeOn]

theorem withTail_congr (hscheme : base.scheme = base'.scheme)
    (hauthority : base.authority = base'.authority) (hpath : base.path = base'.path) :
    base.withTail t = base'.withTail t := by
  unfold withTail
  rw [hscheme, hauthority, hpath]

theorem withPath_congr (hscheme : base.scheme = base'.scheme)
    (hauthority : base.authority = base'.authority) {before : Text} :
    base.withPath before t = base'.withPath before t := by
  unfold withPath
  rw [hscheme]
  exact withTail_congr rfl hauthority rfl

theorem withSibling_congr (hweb : schemeKind base.scheme = .web)
    (h : AgreeOn .directory base base') : base.withSibling t = base'.withSibling t := by
  obtain ⟨hscheme, hauthority, hdirectory⟩ := h
  unfold withSibling
  rw [← hscheme, hweb]
  dsimp only
  rw [hdirectory]
  exact withPath_congr hscheme hauthority

theorem readRelative_congr (hweb : schemeKind base.scheme = .web)
    (h : AgreeOn (relativeShare t) base base') : readRelative base t = readRelative base' t := by
  have hscheme := h.scheme_eq (relativeShare_ne_nothing t)
  cases t with
  | nil =>
      obtain ⟨-, hauthority, hpath, hquery⟩ := h
      simp [readRelative, withoutFragment, hscheme, hauthority, hpath, hquery]
  | cons c rest =>
      by_cases hfragment : c = '#'
      · subst hfragment
        obtain ⟨-, hauthority, hpath, hquery⟩ := h
        simp [readRelative, withFragmentOf, hscheme, hauthority, hpath, hquery]
      · by_cases hquery : c = '?'
        · subst hquery
          obtain ⟨-, hauthority, hpath⟩ := h
          exact congrArg Except.ok (withTail_congr hscheme hauthority hpath)
        · by_cases hslash : isSlash c = true
          · cases rest with
            | nil =>
                have hagree : AgreeOn .authority base base' := by
                  simpa [relativeShare, hslash] using h
                simp [readRelative, hslash, withPath_congr hscheme hagree.2]
            | cons d behind =>
                by_cases hslash' : isSlash d = true
                · simp [readRelative, hslash, hslash', hscheme]
                · have hagree : AgreeOn .authority base base' := by
                    simpa [relativeShare, hslash, hslash'] using h
                  simp [readRelative, hslash, hslash', withPath_congr hscheme hagree.2]
          · have hagree : AgreeOn .directory base base' := by
              simpa [relativeShare, hslash] using h
            simp [readRelative, hslash, withSibling_congr hweb hagree]

/-- A reference in a scheme that is not one of the web does not look at such a base. -/
theorem readWithScheme_of_ne_web {scheme : Text} (hscheme : schemeKind scheme ≠ .web)
    (hbase : schemeKind base.scheme = .web) :
    readWithScheme (some base) scheme t = readWithScheme none scheme t := by
  have hne : base.scheme ≠ scheme := by
    rintro rfl
    exact hscheme hbase
  unfold readWithScheme
  rw [sameScheme_some, if_neg hne]
  rfl

/-- A reference in a scheme of the web with two slashes does not look at its base. -/
theorem readWithScheme_of_slashes {scheme : Text} (hscheme : schemeKind scheme = .web)
    (hslashes : 2 ≤ (t.takeWhile isSlash).length) :
    readWithScheme (some base) scheme t = readAuthority scheme (t.dropWhile isSlash) := by
  unfold readWithScheme
  rw [hscheme, sameScheme_some]
  dsimp only
  by_cases hsame : base.scheme = scheme
  · rw [if_pos hsame]
    dsimp only
    rw [if_neg (Nat.not_lt.mpr hslashes)]
  · rw [if_neg hsame]

/-- **A reference means the same from two bases that agree on its share.** -/
theorem join_congr (hweb : schemeKind base.scheme = .web) (hweb' : schemeKind base'.scheme = .web)
    (hbase : base.authority.isSome = true) (hbase' : base'.authority.isSome = true)
    (h : AgreeOn (shareOf base.scheme t) base base') : base.join t = base'.join t := by
  unfold shareOf at h
  unfold join readFrom
  cases hsplit : splitScheme? (cleaned t) with
  | some split =>
      obtain ⟨scheme, rest⟩ := split
      rw [hsplit] at h
      dsimp only at h ⊢
      by_cases hkind : schemeKind scheme = .web
      · by_cases hslashes : 2 ≤ (rest.takeWhile isSlash).length
        · rw [readWithScheme_of_slashes hkind hslashes, readWithScheme_of_slashes hkind hslashes]
        · rw [if_neg (by simp [hkind, hslashes])] at h
          unfold readWithScheme
          rw [hkind, sameScheme_some, sameScheme_some]
          dsimp only
          by_cases hsame : base.scheme = scheme
          · -- only here the bases are looked at
            rw [if_pos hsame] at h
            have hscheme := h.scheme_eq (relativeShare_ne_nothing rest)
            rw [if_pos hsame, if_pos (hscheme.symm.trans hsame)]
            dsimp only
            rw [if_pos (Nat.not_le.mp hslashes), if_pos (Nat.not_le.mp hslashes)]
            exact readRelative_congr hweb h
          · rw [if_neg hsame] at h
            have hscheme : base.scheme = base'.scheme := h
            rw [← hscheme, if_neg hsame, if_neg hsame]
      · rw [readWithScheme_of_ne_web hkind hweb, readWithScheme_of_ne_web hkind hweb']
  | none =>
      rw [hsplit] at h
      have hscheme := h.scheme_eq (relativeShare_ne_nothing (cleaned t))
      dsimp only at h ⊢
      unfold readWithoutScheme
      dsimp only
      rw [isOpaque_of_authority hbase, isOpaque_of_authority hbase', ← hscheme, hweb]
      split
      · rename_i f hcleaned
        rw [hcleaned] at h
        obtain ⟨-, hauthority, hpath, hquery⟩ := h
        simp [withFragmentOf, hscheme, hauthority, hpath, hquery]
      · exact readRelative_congr hweb h

end

end StudioLookup.Url
