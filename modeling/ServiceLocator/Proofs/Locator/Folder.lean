import ServiceLocator.Proofs.Locator.Segments

/-!
The folder of an address. All addresses that are joined with a base begin with the same
segments (`Endpoint.folder`), whatever path is put after them, and these are the segments of
the base itself, up to the empty ones at its end.
-/
namespace ServiceLocator

open Url

namespace Url

/-! ## What follows an authority -/

/-- The path that the text between an authority and a later slash leads to. -/
def under : List Char → List String
  | [] => []
  | _ :: rest => Path.advance [] (Path.cut Path.isAnySlash rest)

theorem pathAfterAuthority_cons {c : Char} (hc : Path.isAnySlash c = true) (rest : List Char) :
    pathAfterAuthority true (c :: rest) = Path.parse Path.isAnySlash rest := by
  show Path.parse Path.isAnySlash (if Path.isAnySlash c = true then rest else c :: rest) = _
  rw [if_pos hc]

section

variable {root : List Char} (hfollows : Follows root) (hroot : ∀ c ∈ root, endsPath c = false)
include hfollows hroot

/-- A text that follows an authority and is read as a path begins with a slash. -/
theorem isAnySlash_of_follows {c : Char} (hc : c ∈ root.head?) : Path.isAnySlash c = true := by
  have hends := hfollows c hc
  have hpath := hroot c (List.mem_of_mem_head? hc)
  simp only [endsAuthority, Bool.or_eq_true, Bool.true_and] at hends
  simp only [endsPath, Bool.or_eq_false_iff] at hpath
  simpa [Path.isAnySlash, hpath] using hends

theorem pathAfterAuthority_append (text : List Char) :
    pathAfterAuthority true (root ++ '/' :: text) =
      .segments (Path.resolve Path.parent (under root) (Path.cut Path.isAnySlash text)) := by
  cases root with
  | nil => rfl
  | cons c rest =>
    rw [List.cons_append, pathAfterAuthority_cons (isAnySlash_of_follows hfollows hroot rfl),
      Path.parse, Path.cut_append_cons rfl, Path.resolve_append _ _ (Path.cut_ne_nil _)]
    rfl

/-- On its own it leads to the same path, or to the folder of that name. -/
theorem exists_pathAfterAuthority (n : Nat) : ∃ m,
    pathAfterAuthority true (root ++ List.replicate n '/') =
      .segments (under root ++ List.replicate m "") := by
  cases n with
  | succ n =>
    refine ⟨n + 1, ?_⟩
    rw [List.replicate_succ, pathAfterAuthority_append hfollows hroot, Path.cut_replicate rfl,
      Path.resolve_replicate]
  | zero =>
    rw [List.replicate_zero, List.append_nil]
    cases root with
    | nil => exact ⟨1, rfl⟩
    | cons c rest =>
      rw [pathAfterAuthority_cons (isAnySlash_of_follows hfollows hroot rfl), Path.parse]
      rcases Path.resolve_cases [] (Path.cut Path.isAnySlash rest) with h | h
      · exact ⟨0, by rw [h]; exact congrArg _ (List.append_nil _).symm⟩
      · exact ⟨1, by rw [h]; rfl⟩

end

/-- A URL without query and fragment has nothing after its path. -/
theorem endsPath_of_ofSpecial {scheme : String} {auth : Authority} {after : List Char}
    (hquery : (ofSpecial scheme auth after).query = none)
    (hfragment : (ofSpecial scheme auth after).fragment = none) :
    ∀ c ∈ after, endsPath c = false := by
  have hnil : after.dropWhile (!endsPath ·) = [] := by
    cases hdrop : after.dropWhile (!endsPath ·) with
    | nil => rfl
    | cons c rest =>
      have hc : endsPath c = true := by
        have hhead := List.head?_dropWhile_not (!endsPath ·) after
        rw [hdrop] at hhead
        simpa using hhead
      simp only [ofSpecial, hdrop] at hquery hfragment
      simp only [endsPath, Bool.or_eq_true, beq_iff_eq] at hc
      rcases hc with rfl | rfl
      · cases hquery
      · cases hfragment
  intro c hc
  simpa using List.dropWhile_eq_nil_iff.mp hnil c hc

theorem ofSpecial_append {root : List Char} (hfollows : Follows root)
    (hroot : ∀ c ∈ root, endsPath c = false) (scheme : String) (auth : Authority)
    (text : List Char) :
    (ofSpecial scheme auth (root ++ '/' :: text)).path =
      .segments (Path.resolve Path.parent (under root)
        (Path.cut Path.isAnySlash (text.takeWhile (!endsPath ·)))) ∧
    (ofSpecial scheme auth (root ++ '/' :: text)).query =
      (queryAndFragment specialQuerySet (text.dropWhile (!endsPath ·))).1 := by
  have hkeep : ∀ c ∈ root, (!endsPath c) = true := fun c hc => by rw [hroot c hc]; rfl
  constructor
  · show pathAfterAuthority true _ = _
    rw [List.takeWhile_append_of_pos hkeep, List.takeWhile_cons_of_pos (by decide)]
    exact pathAfterAuthority_append hfollows hroot _
  · show (queryAndFragment specialQuerySet _).1 = _
    rw [List.dropWhile_append_of_pos hkeep, List.dropWhile_cons_of_pos (by decide)]

/-- More text after a slash does not belong to an authority. -/
theorem afterAuthority_append_cons (front back : List Char) :
    afterAuthority (front ++ '/' :: back) = afterAuthority front ++ '/' :: back :=
  dropWhile_append_cons (by decide) front back

theorem authorityPart_append_slashes (front : List Char) (n : Nat) :
    authorityPart (front ++ List.replicate n '/') = authorityPart front := by
  cases n with
  | zero => rw [List.replicate_zero, List.append_nil]
  | succ n => exact authorityPart_append_cons (by decide) front _

theorem afterAuthority_append_slashes (front : List Char) (n : Nat) :
    afterAuthority (front ++ List.replicate n '/') =
      afterAuthority front ++ List.replicate n '/' := by
  cases n with
  | zero => simp only [List.replicate_zero, List.append_nil]
  | succ n => exact afterAuthority_append_cons front _

theorem afterAuthority_subset (front back : List Char) :
    afterAuthority front ⊆ afterAuthority (front ++ back) := by
  intro c hc
  unfold afterAuthority at hc ⊢
  rw [List.dropWhile_append]
  split
  · rename_i hnil
    rw [List.isEmpty_iff.mp hnil] at hc
    cases hc
  · exact List.mem_append_left _ hc

theorem mem_afterAuthority_append {front back : List Char} {c : Char}
    (h : c ∈ afterAuthority (front ++ back)) : c ∈ afterAuthority front ∨ c ∈ back := by
  unfold afterAuthority at h ⊢
  rw [List.dropWhile_append] at h
  split at h
  · exact .inr ((List.dropWhile_suffix _).subset h)
  · exact List.mem_append.mp h

theorem endsPath_of_isBlank {c : Char} (hc : isBlank c = true) : endsPath c = false :=
  of_isBlank (P := (endsPath · = false)) (by decide) hc

/-- Slashes at the end of a text are not part of its scheme. -/
theorem exists_splitScheme?_of_slashes {front after : List Char} {scheme : String} {n : Nat}
    (h : splitScheme? (front ++ List.replicate n '/') = some (scheme, after)) :
    ∃ after', splitScheme? front = some (scheme, after') ∧
      after = after' ++ List.replicate n '/' := by
  cases n with
  | zero =>
    rw [List.replicate_zero, List.append_nil] at h
    exact ⟨after, h, (List.append_nil after).symm⟩
  | succ n => exact exists_splitScheme?_of_append (by decide) (by decide) h

end Url

namespace Endpoint

/-! ## Texts of addresses -/

/-- A text that does not end in a blank. -/
def Tight (s : String) : Prop := ∀ c ∈ s.toList.getLast?, isBlank c = false

/-- A tight base loses no more than slashes. -/
theorem tidy_of_tight {base : String} (h : Tight base) :
    ∃ n, tidy base.toList = stem base ++ List.replicate n '/' := by
  rcases tidy_base_or_stem_eq base with hslashes | hstem
  · exact hslashes
  · exact ⟨0, by rw [hstem, tidy_eq_leading h]; simp⟩

/-- A base goes on with `rest` after its scheme and slashes, and every address that is joined
with it with `body`, a slash and the end of its path. -/
structure Continues (base scheme : String) (port : Nat) (body rest : List Char) : Prop where
  opens : Opens base scheme port rest
  joined : ∀ path back, path.toList = '/' :: back →
    Opens (joined base path) scheme port (body ++ '/' :: trailing back)
  endsPath : ∀ c ∈ afterAuthority body, endsPath c = true → c ∈ afterAuthority rest
  tight : Tight base → ∃ n, rest = body ++ List.replicate n '/'

theorem opens_joined_of_stem {base scheme : String} {port : Nat}
    (hkind : kind scheme = .special port) {after : List Char}
    (hstem : splitScheme? (stem base) = some (scheme, after))
    (hne : after.dropWhile Path.isAnySlash ≠ []) {path : String} {back : List Char}
    (hpath : path.toList = '/' :: back) :
    Opens (joined base path) scheme port
      (after.dropWhile Path.isAnySlash ++ '/' :: trailing back) := by
  refine (opens_joined hpath).mpr ⟨hkind, after, hstem, ?_⟩
  rw [List.dropWhile_append, if_neg (by simpa using hne)]

/-- A base with slashes at its end goes on with these. -/
theorem Continues.of_slashes {base scheme : String} {port n : Nat} {after : List Char}
    (hkind : kind scheme = .special port)
    (htidy : tidy base.toList = stem base ++ List.replicate n '/')
    (hstem : splitScheme? (stem base) = some (scheme, after))
    (hne : after.dropWhile Path.isAnySlash ≠ []) :
    Continues base scheme port (after.dropWhile Path.isAnySlash)
      (after.dropWhile Path.isAnySlash ++ List.replicate n '/') where
  opens := by
    refine ⟨hkind, after ++ List.replicate n '/', ?_, ?_⟩
    · rw [htidy]
      exact splitScheme?_append hstem _
    · rw [List.dropWhile_append, if_neg (by simpa using hne)]
  joined path back hpath := opens_joined_of_stem hkind hstem hne hpath
  endsPath c hc _ := afterAuthority_subset _ _ hc
  tight _ := ⟨n, rfl⟩

/-- A base with blanks at its end is read without these, but the addresses joined with it are
not. -/
theorem Continues.of_blanks {base scheme : String} {port : Nat} {rest blanks : List Char}
    (hopens : Opens base scheme port rest) (hne : rest ≠ [])
    (hstem : stem base = tidy base.toList ++ blanks) (hnonempty : blanks ≠ [])
    (hblanks : ∀ c ∈ blanks, isBlank c = true) :
    Continues base scheme port (rest ++ blanks) rest where
  opens := hopens
  joined path back hpath := by
    obtain ⟨after, hsplit, hrest⟩ := hopens.split
    have hafter : (after ++ blanks).dropWhile Path.isAnySlash = rest ++ blanks := by
      rw [List.dropWhile_append, hrest, if_neg (by simpa using hne)]
    have hsplit' : splitScheme? (stem base) = some (scheme, after ++ blanks) := by
      rw [hstem]
      exact splitScheme?_append hsplit _
    rw [← hafter]
    exact opens_joined_of_stem hopens.kind hsplit' (by simp [hafter, hne]) hpath
  endsPath c hc hends := by
    refine (mem_afterAuthority_append hc).resolve_right fun hblank => ?_
    rw [endsPath_of_isBlank (hblanks c hblank)] at hends
    cases hends
  tight htight := by
    obtain ⟨n, htidy⟩ := tidy_of_tight htight
    have hlength := congrArg List.length hstem
    have hpos := List.length_pos_of_ne_nil hnonempty
    rw [htidy] at hlength
    simp only [List.length_append] at hlength
    omega

theorem exists_continues {base : String} {url : Url} (hbase : parse base = .ok url)
    (hspecial : url.IsSpecial) : ∃ port body rest, Continues base url.scheme port body rest := by
  obtain ⟨port, hkind⟩ := hspecial
  obtain ⟨rest, hopens⟩ := exists_opens hbase hkind
  have hne : rest ≠ [] := by
    rintro rfl
    exact not_bare hbase ⟨_, _, hopens⟩
  rcases tidy_base base with ⟨n, htidy⟩ | ⟨c, blanks, hstem, hblanks⟩
  · obtain ⟨after, hsplit, hrest⟩ := hopens.split
    rw [htidy] at hsplit
    obtain ⟨after, hstem, rfl⟩ := exists_splitScheme?_of_slashes hsplit
    refine ⟨_, _, _, .of_slashes hkind htidy hstem fun hnil => ?_⟩
    -- Then there would be nothing but slashes.
    rw [List.dropWhile_append, hnil, if_pos List.isEmpty_nil] at hrest
    refine hne (hrest.symm.trans (List.dropWhile_eq_nil_iff.mpr fun c hc => ?_))
    rw [List.eq_of_mem_replicate hc]
    rfl
  · exact ⟨_, _, _, .of_blanks hopens hne hstem (List.cons_ne_nil _ _) hblanks⟩

/-! ## Folders -/

/-- The segments that an address puts in front of those of its endpoints. -/
def folder (address : String) : List String :=
  match parse (joined address "/") with
  | .ok { path := .segments segments, .. } => segments.dropLast
  | _ => []

namespace Continues

variable {base scheme : String} {port : Nat} {body rest : List Char}

theorem parse_joined (h : Continues base scheme port body rest) {path : String} {back : List Char}
    (hpath : path.toList = '/' :: back) {url : Url} :
    parse (Endpoint.joined base path) = .ok url ↔
      ∃ auth, specialAuthority port (authorityPart body) = .ok auth ∧
        url = ofSpecial scheme auth (afterAuthority body ++ '/' :: trailing back) := by
  rw [(h.joined path back hpath).parse_eq_ok, authorityPart_append_cons (by decide),
    afterAuthority_append_cons]

theorem folder_eq (h : Continues base scheme port body rest)
    (hmarks : ∀ c ∈ afterAuthority body, Url.endsPath c = false) {auth : Authority}
    (hauth : specialAuthority port (authorityPart body) = .ok auth) :
    folder base = under (afterAuthority body) := by
  have hslash : "/".toList = ['/'] := rfl
  have hparse := (h.parse_joined hslash).mpr ⟨auth, hauth, rfl⟩
  have hpath : (ofSpecial scheme auth (afterAuthority body ++ ['/'])).path =
      .segments (under (afterAuthority body) ++ [""]) :=
    (ofSpecial_append (follows_afterAuthority body) hmarks scheme auth []).1
  have htrailing : trailing [] = [] := rfl
  unfold folder
  rw [hparse, htrailing]
  generalize ofSpecial scheme auth (afterAuthority body ++ ['/']) = url at hpath
  obtain ⟨_, _, _, _, _, path, _, _⟩ := url
  obtain rfl : path = _ := hpath
  exact List.dropLast_concat

/-- A base without query and fragment leaves room for paths only. -/
theorem endsPath_eq_false (h : Continues base scheme port body rest) {auth : Authority}
    (hquery : (ofSpecial scheme auth (afterAuthority rest)).query = none)
    (hfragment : (ofSpecial scheme auth (afterAuthority rest)).fragment = none) :
    ∀ c ∈ afterAuthority body, Url.endsPath c = false := by
  intro c hc
  by_contra hends
  rw [Bool.not_eq_false] at hends
  have hmem := h.endsPath c hc hends
  rw [endsPath_of_ofSpecial hquery hfragment c hmem] at hends
  cases hends

end Continues

section

variable {base : String} {url : Url} (hbase : parse base = .ok url) (hspecial : url.IsSpecial)
  (hquery : url.query = none) (hfragment : url.fragment = none)
include hbase hspecial hquery hfragment

/-- Segments of a path are resolved onto the folder of the address that it is joined with. -/
theorem path_joined {path : String} {back : List Char} (hpath : path.toList = '/' :: back)
    {url' : Url} (h : parse (joined base path) = .ok url') :
    url'.path = .segments (Path.resolve Path.parent (folder base)
        (Path.cut Path.isAnySlash (pathText back))) ∧
      url'.query = (queryAndFragment specialQuerySet
        ((trailing back).dropWhile (!endsPath ·))).1 := by
  obtain ⟨port, body, rest, hcontinues⟩ := exists_continues hbase hspecial
  obtain ⟨auth, -, hurl⟩ := hcontinues.opens.parse_eq_ok.mp hbase
  rw [hurl] at hquery hfragment
  have hmarks := hcontinues.endsPath_eq_false hquery hfragment
  obtain ⟨auth', hauth', rfl⟩ := (hcontinues.parse_joined hpath).mp h
  rw [hcontinues.folder_eq hmarks hauth']
  exact ofSpecial_append (follows_afterAuthority body) hmarks _ auth' (trailing back)

/-- The path of a tight address is its folder, with empty segments at the end or without. -/
theorem exists_path_eq_folder (htight : Tight base) :
    ∃ n, url.path = .segments (folder base ++ List.replicate n "") := by
  obtain ⟨port, body, rest, hcontinues⟩ := exists_continues hbase hspecial
  obtain ⟨auth, hauth, hurl⟩ := hcontinues.opens.parse_eq_ok.mp hbase
  rw [hurl] at hquery hfragment
  have hmarks := hcontinues.endsPath_eq_false hquery hfragment
  have hrest := endsPath_of_ofSpecial hquery hfragment
  obtain ⟨n, rfl⟩ := hcontinues.tight htight
  rw [authorityPart_append_slashes] at hauth
  rw [afterAuthority_append_slashes] at hrest
  rw [hcontinues.folder_eq hmarks hauth, hurl, afterAuthority_append_slashes]
  have hkeep : (afterAuthority body ++ List.replicate n '/').takeWhile (!endsPath ·) =
      afterAuthority body ++ List.replicate n '/' :=
    List.takeWhile_eq_self_iff.mpr fun c hc => by rw [hrest c hc]; rfl
  obtain ⟨m, hpath⟩ := exists_pathAfterAuthority (follows_afterAuthority body) hmarks n
  refine ⟨m, ?_⟩
  rw [← hpath, ofSpecial, hkeep]

end

end Endpoint

end ServiceLocator
