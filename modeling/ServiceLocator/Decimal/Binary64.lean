/-!
Finite numbers of 64-bit binary floating point, and the roundings that numbers read
from text go through. A value is `mantissa * 2 ^ exponent` with 53 bits of mantissa
and no exponent below -1074; every operation rounds to the nearest such value, ties
to the even mantissa.
-/
namespace ServiceLocator

/-- A finite value. -/
structure Binary64 where
  negative : Bool
  mantissa : Nat
  exponent : Int
deriving DecidableEq

namespace Binary64

/-- The exponent of the smallest steps. -/
def minExponent : Int := -1074

/-- The largest exponent of a full mantissa. -/
def maxExponent : Int := 971

/-- The quotient to the nearest natural number, ties to the even one. -/
def roundDiv (num den : Nat) : Nat :=
  let q := num / den
  let r := num % den
  if 2 * r < den then q
  else if den < 2 * r then q + 1
  else q + q % 2

/-- `num / (den * 2 ^ e)` as a quotient of natural numbers. -/
def scaled (num den : Nat) (e : Int) : Nat × Nat :=
  if e < 0 then (num <<< e.natAbs, den) else (num, den <<< e.toNat)

/-- The value nearest to a positive quotient; `none` if it is too large. -/
def ofRatio? (num den : Nat) : Option Binary64 :=
  if num = 0 then some ⟨false, 0, minExponent⟩
  else
    -- the mantissa at this exponent has 53 bits or 54
    let low : Int := (num.log2 : Int) - den.log2 - 53
    let (n, d) := scaled num den low
    let e := max (if 1 <<< 53 ≤ n / d then low + 1 else low) minExponent
    let (n, d) := scaled num den e
    let m := roundDiv n d
    let (m, e) := if m = 1 <<< 53 then (1 <<< 52, e + 1) else (m, e)
    if maxExponent < e then none else some ⟨false, m, e⟩

/-- Zero. -/
def zero : Binary64 := ⟨false, 0, minExponent⟩

/-- The value with the other sign. -/
def neg (x : Binary64) : Binary64 := { x with negative := !x.negative }

/-- The value nearest to the size of `x` times that of `y`. -/
def mul? (x y : Binary64) : Option Binary64 :=
  let (n, d) := scaled (x.mantissa * y.mantissa) 1 (-(x.exponent + y.exponent))
  ofRatio? n d

/-- The value nearest to the size of `x` divided by that of `y`. -/
def div? (x y : Binary64) : Option Binary64 :=
  let (n, d) := scaled x.mantissa y.mantissa (y.exponent - x.exponent)
  ofRatio? n d

/-- The value nearest to a power of ten. -/
def tenTo? (k : Nat) : Option Binary64 := ofRatio? (Nat.pow 10 k) 1

/-- The largest power of ten that is a finite value. -/
def largestPower : Nat := 308

/-- Scale by a power of ten, one rounding for each factor; `none` if the result is
too large. Powers beyond the largest finite one divide in several steps. -/
def scale? (x : Binary64) (k : Int) : Option Binary64 :=
  if 0 ≤ k then
    if k ≤ largestPower then do mul? x (← tenTo? k.toNat)
    else if x.mantissa = 0 then some x
    else none
  else if -largestPower ≤ k then do div? x (← tenTo? (-k).toNat)
  else if x.mantissa = 0 then some x
  else do
    let power ← tenTo? largestPower
    let y ← div? x power
    scale? y (k + largestPower)
  termination_by (-k).toNat
  decreasing_by
    simp only [largestPower] at *
    omega

/-- The number `significand * 10 ^ k`: the significand is rounded first, and then
the scaled value. -/
def ofDecimal? (significand : Nat) (k : Int) : Option Binary64 := do
  scale? (← ofRatio? significand 1) k

end Binary64

end ServiceLocator
