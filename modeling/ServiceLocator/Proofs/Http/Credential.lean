import Mathlib.Data.List.TakeWhile
import ServiceLocator.Http.Credential
import ServiceLocator.Proofs.Text.Base64

/-!
Credentials read back. A service takes the value of a credential apart at the first colon
(`Credential.read?`). It gets the principal and the secret that went in exactly if the principal
has no colon; and a password cannot pass for a session token unless the text of both begins
with the principal of tokens.
-/
namespace ServiceLocator.Credential

/-- What stands before the first colon of a text, and what stands behind it. -/
def splitColon? (s : String) : Option (String × String) :=
  match s.toList.dropWhile (· != ':') with
  | [] => none
  | _ :: secret => some (String.ofList (s.toList.takeWhile (· != ':')), String.ofList secret)

/-- The principal and the secret that a service takes from the value of a credential. -/
def read? (value : String) : Option (String × String) := do
  let written ← value.toList.dropPrefix? "Basic ".toList
  let bytes ← Base64.decode? (String.ofList written)
  splitColon? (← Utf8.decode? bytes)

example : read? "Basic dXNlcjphOmI=" = some ("user", "a:b") := by cbv

/-- A credential is what is written for the text of its principal and its secret. -/
theorem basic_inj {principal secret principal' secret' : String} :
    basic principal secret = basic principal' secret' ↔
      principal ++ ":" ++ secret = principal' ++ ":" ++ secret' := by
  rw [basic, basic, String.append_right_inj, Base64.encode_inj, Utf8.encode_inj]

/-! ## Taking apart -/

theorem toList_text (principal secret : String) :
    (principal ++ ":" ++ secret).toList = principal.toList ++ ':' :: secret.toList := by
  rw [String.toList_append, String.toList_append, List.append_assoc]
  rfl

/-- A text is taken apart behind its first part if there is no colon in it, and only then. -/
theorem splitColon?_eq_iff {principal secret : String} :
    splitColon? (principal ++ ":" ++ secret) = some (principal, secret) ↔
      ':' ∉ principal.toList := by
  constructor
  · intro h hcolon
    unfold splitColon? at h
    split at h
    · cases h
    · -- The first part ends before the first colon.
      obtain ⟨hprincipal, -⟩ := Prod.mk.inj (Option.some.inj h)
      rw [← hprincipal, String.toList_ofList] at hcolon
      have hkept := List.mem_takeWhile_imp hcolon
      simp at hkept
  · intro h
    have hbefore : ∀ c ∈ principal.toList, (c != ':') = true := by
      intro c hc
      exact bne_iff_ne.mpr fun heq => h (heq ▸ hc)
    have hdrop : (principal ++ ":" ++ secret).toList.dropWhile (· != ':') =
        ':' :: secret.toList := by
      rw [toList_text, List.dropWhile_append_of_pos hbefore]
      rfl
    have htake : (principal ++ ":" ++ secret).toList.takeWhile (· != ':') = principal.toList := by
      rw [toList_text, List.takeWhile_append_of_pos hbefore]
      exact List.append_nil _
    rw [splitColon?, hdrop, htake]
    simp only [String.ofList_toList]

/-- What is read is the text of the principal and the secret, taken apart. -/
theorem read?_basic (principal secret : String) :
    read? (basic principal secret) = splitColon? (principal ++ ":" ++ secret) := by
  have hwritten : (basic principal secret).toList.dropPrefix? "Basic ".toList =
      some (Base64.encode (Utf8.encode (principal ++ ":" ++ secret))).toList := by
    rw [basic, String.toList_append]
    exact List.dropPrefix?_eq_some_iff.mpr ⟨_, rfl, BEq.rfl⟩
  rw [read?, hwritten, Option.bind_eq_bind, Option.bind_some, String.ofList_toList,
    Base64.decode?_eq_some_iff.mpr rfl, Option.bind_eq_bind, Option.bind_some,
    Utf8.decode?_encode]
  rfl

/-! ## Tokens -/

theorem basic_tokenPrincipal_inj {token token' : String} :
    basic tokenPrincipal token = basic tokenPrincipal token' ↔ token = token' := by
  rw [basic_inj, String.append_right_inj]

/-- A credential is that of some token exactly if its text begins with the principal of
tokens. -/
theorem exists_token_iff {username password : String} :
    (∃ token, basic username password = basic tokenPrincipal token) ↔
      "token:".toList <+: (username ++ ":" ++ password).toList := by
  simp only [basic_inj]
  constructor
  · rintro ⟨token, htoken⟩
    rw [htoken, String.toList_append]
    exact List.prefix_append _ _
  · rintro ⟨token, htoken⟩
    have htext : (tokenPrincipal ++ ":" ++ String.ofList token).toList = "token:".toList ++ token :=
      String.toList_append.trans (congrArg _ String.toList_ofList)
    exact ⟨String.ofList token, String.toList_inj.mp (htoken.symm.trans htext.symm)⟩

/-- No other user without a colon in the name is taken for the principal of tokens. -/
theorem basic_ne_token {username : String} (hcolon : ':' ∉ username.toList)
    (hname : username ≠ tokenPrincipal) (password token : String) :
    basic username password ≠ basic tokenPrincipal token := by
  intro h
  have htoken : ':' ∉ tokenPrincipal.toList := by decide
  -- Both sides are read, and so are their principals.
  have hread := (read?_basic username password).trans (splitColon?_eq_iff.mpr hcolon)
  have hread' := (read?_basic tokenPrincipal token).trans (splitColon?_eq_iff.mpr htoken)
  rw [h, hread'] at hread
  exact hname (congrArg Prod.fst (Option.some.inj hread)).symm

/-- Credentials can be read back. A credential is the scheme and a text that stands for the bytes
of the principal, a colon and the secret, and credentials are the same exactly if these texts
are. It is taken apart into the principal and the secret exactly if there is no colon in the
principal, whatever the secret is. Tokens with one credential are the same. A username and a
password have the credential of a token exactly if their text begins with `token:`; so of the
names without a colon only that of tokens itself can be mistaken. -/
theorem credentials_are_read_back :
    (∀ principal secret, ∃ written, basic principal secret = "Basic " ++ written ∧
      Base64.decode? written = some (Utf8.encode (principal ++ ":" ++ secret))) ∧
    (∀ principal secret principal' secret', basic principal secret = basic principal' secret' ↔
      principal ++ ":" ++ secret = principal' ++ ":" ++ secret') ∧
    (∀ principal secret, read? (basic principal secret) = some (principal, secret) ↔
      ':' ∉ principal.toList) ∧
    (∀ token token', basic tokenPrincipal token = basic tokenPrincipal token' ↔ token = token') ∧
    (∀ username password, (∃ token, basic username password = basic tokenPrincipal token) ↔
      "token:".toList <+: (username ++ ":" ++ password).toList) ∧
    ∀ username password token, ':' ∉ username.toList → username ≠ "token" →
      basic username password ≠ basic tokenPrincipal token := by
  refine ⟨fun principal secret => ⟨_, rfl, Base64.decode?_eq_some_iff.mpr rfl⟩,
    fun _ _ _ _ => basic_inj, fun principal secret => ?_, fun _ _ => basic_tokenPrincipal_inj,
    fun _ _ => exists_token_iff, fun _ password token hcolon hname =>
      basic_ne_token hcolon hname password token⟩
  rw [read?_basic, splitColon?_eq_iff]

/-- A password with a colon is told from its user, and a user with a colon is not told from a
token. -/
theorem credentials_are_read_back_colon :
    read? (basic "user" "a:b") = some ("user", "a:b") ∧
      basic "user" "a:b" ≠ basic tokenPrincipal "a:b" ∧
      (∃ token, basic "token:x" "y" = basic tokenPrincipal token) ∧
      read? (basic "token:x" "y") ≠ some ("token:x", "y") := by
  obtain ⟨-, -, hread, -, htoken, hother⟩ := credentials_are_read_back
  exact ⟨(hread _ _).mpr (by decide), hother _ _ _ (by decide) (by decide),
    (htoken _ _).mpr (by decide), fun h => (hread _ _).mp h (by decide)⟩

end ServiceLocator.Credential
