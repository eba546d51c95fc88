import ServiceLocator.Proofs.Url.Authority

/-!
URLs of special schemes. Such a URL is a scheme, slashes and an authority, and then what
follows the authority (`Opens.parse`). Only the authority can be at fault.
-/
namespace ServiceLocator.Url

/-- A URL of a special scheme, from its authority and what follows that. -/
def ofSpecial (scheme : String) (auth : Authority) (after : List Char) : Url where
  scheme := scheme
  username := auth.username
  password := auth.password
  host := some auth.host
  port := auth.port
  path := pathAfterAuthority true (after.takeWhile (!endsPath ·))
  query := (queryAndFragment specialQuerySet (after.dropWhile (!endsPath ·))).1
  fragment := (queryAndFragment specialQuerySet (after.dropWhile (!endsPath ·))).2

theorem withAuthority_some (scheme : String) (port : Nat) (cs : List Char) :
    withAuthority scheme (some port) cs =
      (specialAuthority port (authorityPart cs)).map (ofSpecial scheme · (afterAuthority cs)) := by
  unfold withAuthority
  rw [authority_eq]
  cases specialAuthority port (authorityPart cs) <;> rfl

/-- A text opens with a special scheme, a colon and slashes, and goes on with `cs`. -/
structure Opens (s scheme : String) (port : Nat) (cs : List Char) : Prop where
  kind : kind scheme = .special port
  split : ∃ rest, splitScheme? (tidy s.toList) = some (scheme, rest) ∧
    rest.dropWhile Path.isAnySlash = cs

variable {s scheme : String} {port : Nat} {cs : List Char}

theorem Opens.unique {scheme' : String} {port' : Nat} {cs' : List Char}
    (h : Opens s scheme port cs) (h' : Opens s scheme' port' cs') : cs = cs' := by
  obtain ⟨rest, hsplit, rfl⟩ := h.split
  obtain ⟨rest', hsplit', rfl⟩ := h'.split
  rw [hsplit] at hsplit'
  cases hsplit'
  rfl

/-- Then its authority decides whether it is a URL. -/
theorem Opens.parse (h : Opens s scheme port cs) :
    parse s =
      (specialAuthority port (authorityPart cs)).map (ofSpecial scheme · (afterAuthority cs)) := by
  obtain ⟨rest, hsplit, rfl⟩ := h.split
  unfold Url.parse
  rw [hsplit]
  simp only [h.kind]
  exact withAuthority_some _ _ _

theorem scheme_withAuthority {own : Option Nat} {url : Url}
    (h : withAuthority scheme own cs = .ok url) : url.scheme = scheme := by
  unfold withAuthority at h
  cases hread : authority own cs with
  | error fault =>
    rw [hread] at h
    cases h
  | ok read =>
    rw [hread] at h
    cases h
    rfl

theorem scheme_file {url : Url} (h : file cs = .ok url) : url.scheme = "file" := by
  unfold file at h
  split at h
  · rename_i rest
    split at h
    · cases hhost : fileHost rest with
      | error fault =>
        rw [hhost] at h
        cases h
      | ok read =>
        rw [hhost] at h
        cases h
        rfl
    · cases h
      rfl
  · cases h
    rfl

/-- A URL has the scheme that its text opens with. -/
theorem scheme_of_parse {rest : List Char}
    (hsplit : splitScheme? (tidy s.toList) = some (scheme, rest)) {url : Url}
    (h : parse s = .ok url) :
    url.scheme = scheme ∨ kind scheme = .file ∧ url.scheme = "file" := by
  unfold Url.parse at h
  rw [hsplit] at h
  simp only at h
  cases hkind : kind scheme with
  | file =>
    rw [hkind] at h
    exact .inr ⟨rfl, scheme_file h⟩
  | special port =>
    rw [hkind] at h
    exact .inl (scheme_withAuthority h)
  | other =>
    rw [hkind] at h
    simp only at h
    split at h
    · exact .inl (scheme_withAuthority h)
    · cases h
      exact .inl rfl

/-- A URL of a special scheme opens with it. -/
theorem exists_opens {url : Url} (h : parse s = .ok url)
    (hkind : kind url.scheme = .special port) : ∃ cs, Opens s url.scheme port cs := by
  cases hsplit : splitScheme? (tidy s.toList) with
  | none =>
    unfold Url.parse at h
    rw [hsplit] at h
    cases h
  | some parts =>
    obtain ⟨scheme, rest⟩ := parts
    rcases scheme_of_parse hsplit h with hscheme | ⟨_, hfile⟩
    · exact ⟨_, hkind, rest, by rw [hsplit, hscheme], rfl⟩
    · rw [hfile] at hkind
      cases hkind

/-- Its parts are those of its authority. -/
theorem Opens.parse_eq_ok (h : Opens s scheme port cs) {url : Url} :
    Url.parse s = .ok url ↔ ∃ auth, specialAuthority port (authorityPart cs) = .ok auth ∧
      url = ofSpecial scheme auth (afterAuthority cs) := by
  rw [h.parse]
  cases specialAuthority port (authorityPart cs) with
  | error fault => simp [Except.map]
  | ok auth => simp [Except.map, eq_comm]

end ServiceLocator.Url
