/-!
Punycode: code points beyond ASCII written with letters and digits, after the
ASCII ones and a hyphen. Each is a distance, written as a number of variable
length whose digit thresholds adapt to the distances before.
-/
namespace ServiceLocator.Url.Punycode

def base : Nat := 36
def tMin : Nat := 1
def tMax : Nat := 26
def skew : Nat := 38
def damp : Nat := 700
def initialBias : Nat := 72
def initialCode : Nat := 128

/-- The largest value that a distance may reach. -/
def limit : Nat := 0xFFFFFFFF

/-- Divide until the value fits one digit, counting the steps. -/
def adaptSteps (delta : Nat) : Nat × Nat :=
  if (base - tMin) * tMax / 2 < delta then
    let (k, rest) := adaptSteps (delta / (base - tMin))
    (k + base, rest)
  else (0, delta)
  termination_by delta
  decreasing_by
    simp only [base, tMin, tMax] at *
    omega

/-- The bias after a distance, for `points` code points so far. -/
def adapt (delta points : Nat) (first : Bool) : Nat :=
  let delta := if first then delta / damp else delta / 2
  let (k, rest) := adaptSteps (delta + delta / points)
  k + (base - tMin + 1) * rest / (rest + skew)

/-- The threshold of the digit at weight position `k`. -/
def threshold (k bias : Nat) : Nat :=
  if k ≤ bias + tMin then tMin
  else if bias + tMax ≤ k then tMax
  else k - bias

/-- The value of a digit, letters before figures, in either case. -/
def digitValue? (c : Char) : Option Nat :=
  if 'a' ≤ c ∧ c ≤ 'z' then some (c.toNat - 97)
  else if 'A' ≤ c ∧ c ≤ 'Z' then some (c.toNat - 65)
  else if '0' ≤ c ∧ c ≤ '9' then some (c.toNat - 48 + 26)
  else none

/-- The digit of a value below thirty-six. -/
def digit (n : Nat) : Char :=
  if n < 26 then Char.ofNat (n + 97) else Char.ofNat (n - 26 + 48)

/-! ## Reading -/

/-- Add one number of variable length to `i`; the rest of the text follows it. -/
def readNumber (i weight k bias : Nat) : List Char → Option (Nat × List Char)
  | [] => none
  | c :: rest =>
    match digitValue? c with
    | none => none
    | some value =>
      let i := i + value * weight
      let t := threshold k bias
      if limit < i then none
      else if value < t then some (i, rest)
      else readNumber i (weight * (base - t)) (k + base) bias rest

theorem length_readNumber {i weight k bias : Nat} {cs : List Char} {n : Nat} {rest : List Char}
    (h : readNumber i weight k bias cs = some (n, rest)) : rest.length < cs.length := by
  induction cs generalizing i weight k with
  | nil => simp [readNumber] at h
  | cons c cs ih =>
    simp only [readNumber] at h
    split at h
    · simp at h
    · split at h
      · simp at h
      · split at h
        · cases h
          simp
        · exact Nat.lt_succ_of_lt (ih h)

/-- Insert an element at a position. -/
def insertAt (position : Nat) (code : Nat) (codes : List Nat) : List Nat :=
  codes.take position ++ code :: codes.drop position

/-- Read the numbers one after the other, inserting a code point for each. -/
def readFrom (code i bias : Nat) (first : Bool) (codes : List Nat) (cs : List Char) :
    Option (List Nat) :=
  match cs with
  | [] => some codes
  | c :: rest =>
    match _h : readNumber i 1 base bias (c :: rest) with
    | none => none
    | some (i', cs') =>
      let points := codes.length + 1
      let code := code + i' / points
      if code.isValidChar then
        readFrom code (i' % points + 1) (adapt (i' - i) points first) false
          (insertAt (i' % points) code codes) cs'
      else none
  termination_by cs.length
  decreasing_by exact length_readNumber _h

/-- The text before the last hyphen and the text after it; all of it comes after
if there is none. -/
def splitLastHyphen (cs : List Char) : List Char × List Char :=
  let after := cs.reverse.takeWhile (· != '-')
  if after.length = cs.length then ([], cs)
  else (cs.take (cs.length - after.length - 1), after.reverse)

/-- The code points that a text in ASCII stands for. -/
def decode? (cs : List Char) : Option (List Nat) :=
  let (basic, extended) := splitLastHyphen cs
  readFrom initialCode 0 initialBias true (basic.map Char.toNat) extended

/-! ## Writing -/

/-- Write a number of variable length. Each digit but the last divides what is
left by more than one. -/
def writeNumber (q k bias : Nat) : List Char :=
  let t := threshold k bias
  if t ≤ q then
    digit (t + (q - t) % (base - t)) :: writeNumber ((q - t) / (base - t)) (k + base) bias
  else [digit q]
  termination_by q
  decreasing_by
    rename_i h
    have ht : 1 ≤ threshold k bias ∧ threshold k bias ≤ 26 := by
      unfold threshold tMin tMax
      split
      · omega
      · split <;> omega
    simp only [base]
    have hdiv := Nat.div_le_self (q - threshold k bias) (36 - threshold k bias)
    omega

/-- The state of the writer: the code point looked for, the distance since the last
one written, the bias, and how many code points are written. -/
structure Writer where
  code : Nat
  delta : Nat
  bias : Nat
  written : Nat

/-- Pass the whole text once: count smaller code points, write those that are due. -/
def writePass (basicCount : Nat) (w : Writer) : List Nat → List Char × Writer
  | [] => ([], w)
  | c :: rest =>
    if c < w.code then writePass basicCount { w with delta := w.delta + 1 } rest
    else if c = w.code then
      let number := writeNumber w.delta base w.bias
      let bias := adapt w.delta (w.written + 1) (w.written == basicCount)
      let (cs, w') := writePass basicCount ⟨w.code, 0, bias, w.written + 1⟩ rest
      (number ++ cs, w')
    else writePass basicCount w rest

/-- One pass for each distinct code point beyond ASCII, in increasing order. -/
def writeFrom (codes : List Nat) (basicCount : Nat) (w : Writer) : List Nat → List Char
  | [] => []
  | next :: later =>
    let delta := w.delta + (next - w.code) * (w.written + 1)
    let (cs, w') := writePass basicCount { w with code := next, delta := delta } codes
    cs ++ writeFrom codes basicCount { w' with code := next + 1, delta := w'.delta + 1 } later

/-- The ASCII text that stands for code points. -/
def encode (codes : List Nat) : List Char :=
  let basic := codes.filter (· < initialCode)
  let others := ((codes.filter (initialCode ≤ ·)).mergeSort (· ≤ ·)).eraseDups
  let written := (basic.map Char.ofNat) ++ if basic.isEmpty then [] else ['-']
  written ++ writeFrom codes basic.length ⟨initialCode, 0, initialBias, basic.length⟩ others

end ServiceLocator.Url.Punycode
