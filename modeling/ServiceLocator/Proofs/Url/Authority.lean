import Mathlib.Data.List.TakeWhile
import ServiceLocator.Url.Parser

/-!
Authorities of special schemes. What an authority says depends on its text alone, which
ends at the first slash, backslash, question mark or number sign: nothing that follows it
can change the login, the host or the port (`authority_eq`).
-/
namespace ServiceLocator.Url

/-! ## Where an authority ends -/

/-- The part of a text that is its authority. -/
def authorityPart (cs : List Char) : List Char := cs.takeWhile (!endsAuthority true ·)

/-- What follows the authority. -/
def afterAuthority (cs : List Char) : List Char := cs.dropWhile (!endsAuthority true ·)

/-- A text in which no authority ends. -/
def Unended (cs : List Char) : Prop := ∀ c ∈ cs, endsAuthority true c = false

/-- A text that can follow an authority. -/
def Follows (cs : List Char) : Prop := ∀ c ∈ cs.head?, endsAuthority true c = true

theorem unended_authorityPart (cs : List Char) : Unended (authorityPart cs) := by
  intro c hc
  have h := List.mem_takeWhile_imp hc
  simpa using h

theorem follows_afterAuthority (cs : List Char) : Follows (afterAuthority cs) := by
  intro c hc
  have h := List.head?_dropWhile_not (!endsAuthority true ·) cs
  unfold afterAuthority at hc
  rw [Option.mem_def.mp hc] at h
  simpa using h

theorem follows_nil : Follows [] := by
  intro c hc
  cases hc

theorem follows_cons {c : Char} {cs : List Char} :
    Follows (c :: cs) ↔ endsAuthority true c = true := by
  simp [Follows]

/-! ## Ports -/

/-- No digit ends an authority. -/
theorem decimalDigit?_of_endsAuthority {c : Char} (h : endsAuthority true c = true) :
    Numeral.decimalDigit? c = none := by
  simp only [endsAuthority, Bool.or_eq_true, Bool.true_and, beq_iff_eq] at h
  rcases h with ((rfl | rfl) | rfl) | rfl <;> decide

/-- The digits of a port are read up to what follows the authority. -/
theorem portFrom_append (port : Nat) {text after : List Char} (htext : Unended text)
    (hafter : Follows after) :
    portFrom port (text ++ after) = (portFrom port text).map fun read => (read.1, after) := by
  induction text generalizing port with
  | nil =>
    cases after with
    | nil => rfl
    | cons c rest =>
      have hc := follows_cons.mp hafter
      simp [portFrom, decimalDigit?_of_endsAuthority hc, hc, Except.map]
  | cons c rest ih =>
    have hrest : Unended rest := fun x hx => htext x (List.mem_cons_of_mem _ hx)
    have hc : endsAuthority true c = false := htext c List.mem_cons_self
    rw [List.cons_append, portFrom, portFrom]
    cases Numeral.decimalDigit? c with
    | none => simp [hc, Except.map]
    | some digit =>
      simp only
      split
      · exact ih _ hrest
      · rfl

/-- All of an authority's text is used up. -/
theorem portFrom_rest {port number : Nat} {text rest : List Char} (htext : Unended text)
    (h : portFrom port text = .ok (number, rest)) : rest = [] := by
  have happend := portFrom_append port htext follows_nil
  rw [List.append_nil, h] at happend
  cases happend
  rfl

/-- A port is announced by a colon and is read up to what follows the authority. -/
theorem portOf_append (own : Option Nat) {text after : List Char} (htext : Unended text)
    (hcolon : ∀ c ∈ text.head?, c = ':') (hafter : Follows after) :
    portOf own (text ++ after) = (portOf own text).map fun read => (read.1, after) := by
  cases text with
  | nil =>
    cases after with
    | nil => rfl
    | cons c rest =>
      have hc : c ≠ ':' := by
        rintro rfl
        have := follows_cons.mp hafter
        revert this
        decide
      simp [portOf, Except.map, hc]
  | cons c digits =>
    obtain rfl : c = ':' := hcolon c rfl
    have hdigits : Unended digits := fun x hx => htext x (List.mem_cons_of_mem _ hx)
    rw [List.cons_append, portOf, portOf, portFrom_append 0 hdigits hafter]
    cases hport : portFrom 0 digits with
    | error fault => rfl
    | ok read =>
      obtain ⟨number, rest⟩ := read
      obtain rfl := portFrom_rest hdigits hport
      -- No digits at all leave the port out; that does not depend on what follows either.
      have hlength : after.length = (digits ++ after).length ↔
          ([] : List Char).length = digits.length := by
        simp only [List.length_append, List.length_nil]
        omega
      simp only [Except.map, Bind.bind, Except.bind, hlength]
      split <;> rfl

/-! ## Logins and hosts -/

/-- A text is cut into a host and the rest, which begins with a colon. -/
theorem splitHost_append (inside : Bool) (cs : List Char) :
    (splitHost inside cs).1 ++ (splitHost inside cs).2 = cs := by
  induction cs generalizing inside with
  | nil => rfl
  | cons c rest ih =>
    rw [splitHost]
    split
    · rfl
    · exact congrArg (c :: ·) (ih _)

theorem head?_splitHost (inside : Bool) (cs : List Char) :
    ∀ c ∈ (splitHost inside cs).2.head?, c = ':' := by
  induction cs generalizing inside with
  | nil =>
    intro c hc
    cases hc
  | cons c rest ih =>
    rw [splitHost]
    split
    · rename_i h
      intro x hx
      cases hx
      exact h.1
    · exact ih _

/-- The parts around an `@` make up the text. -/
theorem splitLastAt?_eq_some {cs login place : List Char}
    (h : splitLastAt? cs = some (login, place)) : cs = login ++ '@' :: place := by
  induction cs generalizing login with
  | nil => cases h
  | cons c rest ih =>
    rw [splitLastAt?] at h
    cases hrest : splitLastAt? rest with
    | some parts =>
      rw [hrest] at h
      cases h
      exact congrArg (c :: ·) (ih hrest)
    | none =>
      rw [hrest] at h
      simp only at h
      split at h
      · rename_i hc
        cases h
        rw [hc]
        rfl
      · cases h

/-- The login of an authority. -/
def login (text : List Char) : List Char := ((splitLastAt? text).map (·.1)).getD []

/-- The host and port of an authority. -/
def place (text : List Char) : List Char := ((splitLastAt? text).map (·.2)).getD text

/-- The place stands at the end of the authority. -/
theorem place_suffix (text : List Char) : place text <:+ text := by
  unfold place
  cases h : splitLastAt? text with
  | none => exact List.suffix_rfl
  | some parts =>
    obtain ⟨login, place⟩ := parts
    rw [splitLastAt?_eq_some h]
    exact ⟨login ++ ['@'], by simp⟩

/-- A host of a special scheme is never a mere text. -/
theorem Host.parse_ne_literal {cs : List Char} {host : Host} (h : Host.parse cs = .ok host)
    (text : String) : host ≠ .literal text := by
  rintro rfl
  unfold Host.parse at h
  split at h
  · rename_i inner _
    cases inner with
    | error fault => cases h
    | ok inner =>
      simp only [ofBracketed, Bind.bind, Except.bind] at h
      split at h <;> cases h
  · split at h
    · cases h
    · split at h
      · cases h
      · split at h
        · split at h <;> cases h
        · cases h

/-- What the text of an authority says under a special scheme. -/
def specialAuthority (port : Nat) (text : List Char) : Except Fault Authority :=
  let (hostText, afterHost) := splitHost false (place text)
  if hostText = [] then .error .emptyHost
  else do
    let host ← Host.parse hostText
    let (number, _) ← portOf (some port) afterHost
    return ⟨(userinfo (login text)).1, (userinfo (login text)).2, host, number⟩

/-- The steps of `authority` after its text is cut at the last `@`. -/
def readAuthority (port : Nat) (login : Option (List Char)) (place after : List Char) :
    Except Fault (Authority × List Char) := do
  if login = some [] ∧ place = [] ∧ after ≠ [] then throw .emptyHost
  let (username, password) := userinfo (login.getD [])
  let (hostText, afterHost) := splitHost false place
  if hostText = [] then throw .emptyHost
  let host ← Host.parse hostText
  if host = .literal "" ∧ afterHost.head? = some ':' then throw .emptyHost
  let (port, rest) ← portOf (some port) (afterHost ++ after)
  if host = .literal "" ∧ ¬(username = "" ∧ password = "") then throw .emptyHost
  return (⟨username, password, host, port⟩, rest)

theorem authority_eq_readAuthority (port : Nat) (cs : List Char) :
    authority (some port) cs =
      readAuthority port ((splitLastAt? (authorityPart cs)).map (·.1)) (place (authorityPart cs))
        (afterAuthority cs) := by
  unfold authority readAuthority place authorityPart afterAuthority
  simp only [Option.isSome_some, true_and, if_true]
  cases splitLastAt? (cs.takeWhile (!endsAuthority true ·)) <;> rfl

/-- Under a special scheme the text of an authority decides, and what follows it is given
back as it is. -/
theorem authority_eq (port : Nat) (cs : List Char) :
    authority (some port) cs =
      (specialAuthority port (authorityPart cs)).map fun auth => (auth, afterAuthority cs) := by
  have htext : Unended (authorityPart cs) := unended_authorityPart cs
  have hafter : Follows (afterAuthority cs) := follows_afterAuthority cs
  rw [authority_eq_readAuthority]
  unfold readAuthority specialAuthority login
  generalize afterAuthority cs = after at *
  generalize hplace : place (authorityPart cs) = place
  generalize (splitLastAt? (authorityPart cs)).map (·.1) = login
  generalize hsplit : splitHost false place = parts
  obtain ⟨hostText, afterHost⟩ := parts
  have happend : hostText ++ afterHost = place := by
    rw [← splitHost_append false place, hsplit]
  have hport : portOf (some port) (afterHost ++ after) =
      (portOf (some port) afterHost).map fun read => (read.1, after) := by
    refine portOf_append _ (fun c hc => htext c ?_) ?_ hafter
    · refine (place_suffix _).subset ?_
      rw [hplace, ← happend]
      exact List.mem_append_right _ hc
    · have hcolon := head?_splitHost false place
      rwa [hsplit] at hcolon
  by_cases hhost : hostText = []
  · simp only [hhost, if_true]
    split <;> rfl
  · -- There is a host text, so none of the checks for a missing host applies.
    have hne : place ≠ [] := by
      rw [← happend]
      exact List.append_ne_nil_of_left_ne_nil hhost _
    simp only [hhost, hne, hport, false_and, and_false, if_false]
    cases hparse : Host.parse hostText with
    | error fault => rfl
    | ok host =>
      have hliteral := Host.parse_ne_literal hparse ""
      simp only [Bind.bind, Except.bind, hliteral, false_and, if_false]
      cases portOf (some port) afterHost <;> rfl

end ServiceLocator.Url
