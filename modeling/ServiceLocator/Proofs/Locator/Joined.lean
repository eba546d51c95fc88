import ServiceLocator.Locator.Endpoint
import ServiceLocator.Proofs.Url.Special
import ServiceLocator.Proofs.Url.Tidy

/-!
Joined addresses. An address joined from a base and a path has the authority of the base,
unless the base has none and its slashes are cut off with those at its end (`Bare`): then the
first segment of the path is taken for the host.
-/
namespace ServiceLocator

open Url

namespace Url

/-! ## Authorities followed by a path -/

/-- A URL of `http`, `https`, `ws`, `wss` or `ftp`. -/
def IsSpecial (url : Url) : Prop := ∃ port, kind url.scheme = .special port

/-- URLs of one scheme that go to the same host as the same user. -/
structure SameAuthority (a b : Url) : Prop where
  scheme : a.scheme = b.scheme
  username : a.username = b.username
  password : a.password = b.password
  host : a.host = b.host
  port : a.port = b.port

theorem SameAuthority.ofSpecial (scheme : String) (auth : Authority) (after after' : List Char) :
    SameAuthority (ofSpecial scheme auth after) (ofSpecial scheme auth after') :=
  ⟨rfl, rfl, rfl, rfl, rfl⟩

/-- What stands after the end of an authority is not part of it. -/
theorem authorityPart_append_cons {mark : Char} (hmark : endsAuthority true mark = true)
    (front back : List Char) : authorityPart (front ++ mark :: back) = authorityPart front := by
  unfold authorityPart
  rw [List.takeWhile_append]
  split
  · rename_i hlength
    rw [List.takeWhile_cons_of_neg (by simp [hmark]), List.append_nil]
    exact ((List.takeWhile_sublist _).eq_of_length hlength).symm
  · rfl

/-- Blanks come after the end of an authority or become its end. -/
theorem authorityPart_append_blanks (cs : List Char) {blanks : List Char}
    (hblanks : ∀ c ∈ blanks, isBlank c = true) :
    authorityPart (cs ++ blanks) = authorityPart cs ∨
      ∃ text c, authorityPart (cs ++ blanks) = text ++ [c] ∧ isBlank c = true := by
  rcases List.eq_nil_or_concat' blanks with rfl | ⟨blanks, c, rfl⟩
  · exact .inl (by rw [List.append_nil])
  have hunended : Unended (blanks ++ [c]) := fun x hx => endsAuthority_of_isBlank (hblanks x hx)
  unfold authorityPart
  rw [List.takeWhile_append]
  split
  · right
    refine ⟨cs ++ blanks, c, ?_, hblanks c (List.mem_append_right _ (List.mem_singleton_self c))⟩
    rw [List.takeWhile_eq_self_iff.mpr fun x hx => by rw [hunended x hx]; rfl, List.append_assoc]
  · exact .inl rfl

/-- So an authority that is in order is the same without them. -/
theorem authorityPart_of_append_blanks {cs blanks : List Char}
    (hblanks : ∀ c ∈ blanks, isBlank c = true) {port : Nat} {auth : Authority}
    (h : specialAuthority port (authorityPart (cs ++ blanks)) = .ok auth) :
    authorityPart (cs ++ blanks) = authorityPart cs := by
  rcases authorityPart_append_blanks cs hblanks with heq | ⟨text, c, heq, hc⟩
  · exact heq
  · have htext : Unended text := fun x hx =>
      unended_authorityPart (cs ++ blanks) x (heq ▸ List.mem_append_left _ hx)
    obtain ⟨fault, hfault⟩ := exists_specialAuthority_eq_error hc port htext
    rw [heq, hfault] at h
    cases h

end Url

namespace Endpoint

/-! ## Texts -/

/-- What a base contributes to every address that is joined with it. -/
def stem (base : String) : List Char := leading (trimSlashes base.toList)

theorem toList_joined (base path : String) :
    (joined base path).toList = trimSlashes base.toList ++ path.toList := String.toList_ofList

/-- A base ends in the slashes that are cut off. -/
theorem exists_trimSlashes_append (cs : List Char) :
    ∃ n, cs = trimSlashes cs ++ List.replicate n '/' := by
  refine ⟨(cs.rtakeWhile (· == '/')).length, ?_⟩
  have hslashes : cs.rtakeWhile (· == '/') =
      List.replicate (cs.rtakeWhile (· == '/')).length '/' :=
    List.eq_replicate_of_mem fun c hc =>
      beq_iff_eq.mp (List.mem_rtakeWhile_imp (p := (· == '/')) hc)
  rw [← hslashes]
  exact List.rdropWhile_append_rtakeWhile.symm

section

variable {path : String} {back : List Char} (hpath : path.toList = '/' :: back)
include hpath

theorem tidy_joined (base : String) :
    tidy (joined base path).toList = stem base ++ '/' :: trailing back := by
  rw [toList_joined, hpath, tidy_append_cons _ (by decide)]
  rfl

/-- A joined address opens as the stem of its base does. -/
theorem opens_joined {base scheme : String} {port : Nat} {cs : List Char} :
    Opens (joined base path) scheme port cs ↔ kind scheme = .special port ∧
      ∃ rest, splitScheme? (stem base) = some (scheme, rest) ∧
        (rest ++ '/' :: trailing back).dropWhile Path.isAnySlash = cs := by
  constructor
  · rintro ⟨hkind, rest, hsplit, hcs⟩
    rw [tidy_joined hpath] at hsplit
    obtain ⟨rest', hsplit', rfl⟩ := exists_splitScheme?_of_append (by decide) (by decide) hsplit
    exact ⟨hkind, rest', hsplit', hcs⟩
  · rintro ⟨hkind, rest, hsplit, hcs⟩
    refine ⟨hkind, rest ++ '/' :: trailing back, ?_, hcs⟩
    rw [tidy_joined hpath]
    exact splitScheme?_append hsplit _

end

theorem trailing_slashes (n : Nat) : trailing (List.replicate n '/') = List.replicate n '/' := by
  have hkeep : (List.replicate n '/').rdropWhile isBlank = List.replicate n '/' := by
    refine List.rdropWhile_eq_self_iff.mpr fun hne => ?_
    rw [List.getLast_replicate]
    decide
  unfold trailing
  rw [hkeep, List.filter_replicate]
  rfl

/-- A base with slashes at its end is its stem and these; any other is read to its end. -/
theorem tidy_base_or_stem_eq (base : String) :
    (∃ n, tidy base.toList = stem base ++ List.replicate n '/') ∨
      stem base = leading base.toList := by
  obtain ⟨n, hbase⟩ := exists_trimSlashes_append base.toList
  cases n with
  | zero =>
    rw [List.replicate_zero, List.append_nil] at hbase
    exact .inr (congrArg leading hbase.symm)
  | succ n =>
    left
    refine ⟨n + 1, ?_⟩
    have hslash : isBlank '/' = false := by decide
    have htidy := tidy_append_cons (trimSlashes base.toList) hslash (List.replicate n '/')
    rw [trailing_slashes, ← List.replicate_succ, ← hbase] at htidy
    exact htidy

/-- A base is its stem with the slashes at its end, or its stem without the blanks there. -/
theorem tidy_base (base : String) :
    (∃ n, tidy base.toList = stem base ++ List.replicate n '/') ∨
      ∃ c blanks, stem base = tidy base.toList ++ c :: blanks ∧
        ∀ x ∈ c :: blanks, isBlank x = true := by
  rcases tidy_base_or_stem_eq base with hslashes | hstem
  · exact .inl hslashes
  · obtain ⟨blanks, hleading, hblanks⟩ := exists_leading_eq base.toList
    rw [hstem]
    cases blanks with
    | nil => exact .inl ⟨0, by rw [hleading]; simp⟩
    | cons c blanks => exact .inr ⟨c, blanks, hleading, hblanks⟩

/-! ## Authorities -/

/-- A base that has nothing but slashes after its scheme. -/
def Bare (base : String) : Prop := ∃ scheme port, Opens base scheme port []

theorem Bare.parse_eq {base : String} (h : Bare base) : parse base = .error .emptyHost := by
  obtain ⟨scheme, port, hopens⟩ := h
  rw [hopens.parse]
  rfl

theorem not_bare {base : String} {url : Url} (h : parse base = .ok url) : ¬Bare base := by
  intro hbare
  rw [hbare.parse_eq] at h
  cases h

/-- An address that is joined with a base has the authority of the base, if there is one; else
the first segment of the path becomes its authority. -/
theorem opens_base {base path : String} {back : List Char} (hpath : path.toList = '/' :: back)
    {scheme : String} {port : Nat} {cs : List Char} (h : Opens (joined base path) scheme port cs)
    {auth : Authority} (hauth : specialAuthority port (authorityPart cs) = .ok auth) :
    Opens base scheme port [] ∧ cs = (trailing back).dropWhile Path.isAnySlash ∨
      ∃ cs', Opens base scheme port cs' ∧ authorityPart cs' = authorityPart cs := by
  obtain ⟨hkind, rest, hsplit, rfl⟩ := (opens_joined hpath).mp h
  rcases tidy_base base with ⟨n, htidy⟩ | ⟨c, blanks, hstem, hblanks⟩
  · have hbase : splitScheme? (tidy base.toList) = some (scheme, rest ++ List.replicate n '/') := by
      rw [htidy]
      exact splitScheme?_append hsplit _
    by_cases hafter : rest.dropWhile Path.isAnySlash = []
    · left
      refine ⟨⟨hkind, _, hbase, ?_⟩, ?_⟩
      · rw [List.dropWhile_append, hafter, if_pos List.isEmpty_nil]
        refine List.dropWhile_eq_nil_iff.mpr fun x hx => ?_
        rw [List.eq_of_mem_replicate hx]
        rfl
      · rw [List.dropWhile_append, hafter, if_pos List.isEmpty_nil,
          List.dropWhile_cons_of_pos (by decide)]
    · right
      have happend : ∀ more, (rest ++ more).dropWhile Path.isAnySlash =
          rest.dropWhile Path.isAnySlash ++ more := fun more => by
        rw [List.dropWhile_append, if_neg (by simpa using hafter)]
      refine ⟨_, ⟨hkind, _, hbase, rfl⟩, ?_⟩
      rw [happend, happend, authorityPart_append_cons (by decide)]
      cases n with
      | zero => rw [List.replicate_zero, List.append_nil]
      | succ n => rw [List.replicate_succ, authorityPart_append_cons (by decide)]
  · have hc : isBlank c = true := hblanks c List.mem_cons_self
    rw [hstem] at hsplit
    obtain ⟨rest, hbase, rfl⟩ := exists_splitScheme?_of_append (isSchemeChar_of_isBlank hc)
      (ne_of_isBlank hc (by decide)) hsplit
    right
    refine ⟨_, ⟨hkind, rest, hbase, rfl⟩, ?_⟩
    -- The blanks of the base now stand before the path, as the end of the authority.
    rw [List.append_assoc, List.cons_append, dropWhile_append_cons (isAnySlash_of_isBlank hc),
      ← List.cons_append, ← List.append_assoc, authorityPart_append_cons (by decide)] at hauth ⊢
    exact (authorityPart_of_append_blanks hblanks hauth).symm

/-- A base has the scheme of every address that is joined with it. -/
theorem exists_scheme_base {base path : String} {back : List Char}
    (hpath : path.toList = '/' :: back) {scheme : String} {rest : List Char}
    (h : splitScheme? (tidy (joined base path).toList) = some (scheme, rest)) :
    ∃ rest', splitScheme? (tidy base.toList) = some (scheme, rest') := by
  rw [tidy_joined hpath] at h
  obtain ⟨rest', hstem, -⟩ := exists_splitScheme?_of_append (by decide) (by decide) h
  rcases tidy_base base with ⟨n, htidy⟩ | ⟨c, blanks, heq, hblanks⟩
  · rw [htidy]
    exact ⟨_, splitScheme?_append hstem _⟩
  · have hc : isBlank c = true := hblanks c List.mem_cons_self
    rw [heq] at hstem
    obtain ⟨rest'', hbase, -⟩ := exists_splitScheme?_of_append (isSchemeChar_of_isBlank hc)
      (ne_of_isBlank hc (by decide)) hstem
    exact ⟨rest'', hbase⟩

/-- A base is in order if an address that is joined with it is, and goes to the same host. -/
theorem sameAuthority_of_joined {base path : String} {back : List Char}
    (hpath : path.toList = '/' :: back) {url : Url} (h : parse (joined base path) = .ok url)
    (hspecial : url.IsSpecial) (hbare : ¬Bare base) :
    ∃ baseUrl, parse base = .ok baseUrl ∧ SameAuthority url baseUrl := by
  obtain ⟨port, hkind⟩ := hspecial
  obtain ⟨cs, hopens⟩ := exists_opens h hkind
  obtain ⟨auth, hauth, hurl⟩ := hopens.parse_eq_ok.mp h
  rcases opens_base hpath hopens hauth with ⟨hnone, -⟩ | ⟨cs', hbase, hpart⟩
  · exact absurd ⟨_, _, hnone⟩ hbare
  · have hsame := SameAuthority.ofSpecial url.scheme auth (afterAuthority cs) (afterAuthority cs')
    rw [← hurl] at hsame
    exact ⟨_, hbase.parse_eq_ok.mpr ⟨auth, by rw [hpart, hauth], rfl⟩, hsame⟩

/-- So a base that is a URL is one of a special scheme too. -/
theorem isSpecial_of_joined {base path : String} {back : List Char}
    (hpath : path.toList = '/' :: back) {url baseUrl : Url} (h : parse (joined base path) = .ok url)
    (hspecial : url.IsSpecial) (hbase : parse base = .ok baseUrl) : baseUrl.IsSpecial := by
  obtain ⟨baseUrl', hbase', hsame⟩ := sameAuthority_of_joined hpath h hspecial (not_bare hbase)
  rw [hbase] at hbase'
  cases hbase'
  obtain ⟨port, hkind⟩ := hspecial
  exact ⟨port, hsame.scheme ▸ hkind⟩

/-- An address that is joined with a bare base takes its authority from the path. -/
theorem exists_authority_of_bare {base path : String} {back : List Char}
    (hpath : path.toList = '/' :: back) {url : Url} (h : parse (joined base path) = .ok url)
    (hspecial : url.IsSpecial) (hbare : Bare base) :
    ∃ port auth,
      specialAuthority port (authorityPart ((trailing back).dropWhile Path.isAnySlash)) = .ok auth ∧
        url.username = auth.username ∧ url.password = auth.password := by
  obtain ⟨port, hkind⟩ := hspecial
  obtain ⟨cs, hopens⟩ := exists_opens h hkind
  obtain ⟨auth, hauth, hurl⟩ := hopens.parse_eq_ok.mp h
  rcases opens_base hpath hopens hauth with ⟨-, rfl⟩ | ⟨cs', hbase, hpart⟩
  · exact ⟨port, auth, hauth, by rw [hurl]; rfl, by rw [hurl]; rfl⟩
  · -- A bare base has no authority to give.
    obtain ⟨_, _, hnone⟩ := hbare
    rw [← hpart, hbase.unique hnone] at hauth
    cases hauth

/-! ## Joining -/

theorem join_eq_ok {base path uri : String} :
    join base path = .ok uri ↔ uri = joined base path ∧ ∃ url, parse uri = .ok url := by
  unfold join
  cases h : parse (joined base path) with
  | error fault =>
    simp only [reduceCtorEq, false_iff]
    rintro ⟨rfl, url, hurl⟩
    rw [h] at hurl
    cases hurl
  | ok url =>
    simp only [Except.ok.injEq]
    constructor
    · rintro rfl
      exact ⟨rfl, url, h⟩
    · rintro ⟨rfl, _⟩
      rfl

theorem exists_invalidUri_of_join_error {base path : String} {e : CallError}
    (h : join base path = .error e) : ∃ reason, e = .invalidUri reason := by
  unfold join at h
  split at h
  · cases h
  · cases h
    exact ⟨_, rfl⟩

/-- A text has no scheme, or one whose URLs begin with a host. -/
def SpecialIfAny (s : String) : Prop :=
  ∀ scheme rest, splitScheme? (tidy s.toList) = some (scheme, rest) →
    ∃ port, kind scheme = .special port

/-- A base that is no URL is refused, unless it is bare. -/
theorem join_eq_invalidUri {base path : String} {back : List Char}
    (hpath : path.toList = '/' :: back) {fault : Fault} (hbase : parse base = .error fault)
    (hspecial : SpecialIfAny base) (hbare : ¬Bare base) :
    ∃ reason, join base path = .error (.invalidUri reason) := by
  cases hjoin : join base path with
  | error e =>
    obtain ⟨reason, rfl⟩ := exists_invalidUri_of_join_error hjoin
    exact ⟨reason, rfl⟩
  | ok uri =>
    exfalso
    obtain ⟨rfl, url, hurl⟩ := join_eq_ok.mp hjoin
    cases hsplit : splitScheme? (tidy (joined base path).toList) with
    | none =>
      unfold parse at hurl
      rw [hsplit] at hurl
      cases hurl
    | some parts =>
      obtain ⟨scheme, rest⟩ := parts
      obtain ⟨_, hscheme⟩ := exists_scheme_base hpath hsplit
      obtain ⟨port, hkind⟩ := hspecial _ _ hscheme
      have hurlScheme : url.scheme = scheme := by
        rcases scheme_of_parse hsplit hurl with h | ⟨hfile, -⟩
        · exact h
        · rw [hfile] at hkind
          cases hkind
      obtain ⟨baseUrl, hok, -⟩ :=
        sameAuthority_of_joined hpath hurl ⟨port, hurlScheme ▸ hkind⟩ hbare
      rw [hbase] at hok
      cases hok

end Endpoint

end ServiceLocator
