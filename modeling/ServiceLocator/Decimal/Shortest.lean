import ServiceLocator.Decimal.Binary64
import ServiceLocator.Text.Numeral

/-!
The shortest decimal that reads back as a given finite value. All decimals between
the midpoints to the neighbouring values read back, the midpoints too if the mantissa
is even. The grids of 1, 2, ... 17 digits are tried in turn; of two hits the nearer
wins.
-/
namespace ServiceLocator.Binary64

/-- A quotient of natural numbers. -/
structure Ratio where
  num : Nat
  den : Nat

/-- `n * 10 ^ e`. -/
def Ratio.ofDecimal (n : Nat) (e : Int) : Ratio :=
  if e < 0 then ⟨n, Nat.pow 10 e.natAbs⟩ else ⟨n * Nat.pow 10 e.toNat, 1⟩

/-- `n * 2 ^ e`. -/
def Ratio.ofBinary (n : Nat) (e : Int) : Ratio :=
  if e < 0 then ⟨n, 1 <<< e.natAbs⟩ else ⟨n <<< e.toNat, 1⟩

def Ratio.lt (x y : Ratio) : Bool := x.num * y.den < y.num * x.den
def Ratio.le (x y : Ratio) : Bool := x.num * y.den ≤ y.num * x.den

/-- The distance between two quotients. -/
def Ratio.distance (x y : Ratio) : Ratio :=
  ⟨(x.num * y.den - y.num * x.den) + (y.num * x.den - x.num * y.den), x.den * y.den⟩

/-- The size of a value. -/
def size (x : Binary64) : Ratio := .ofBinary x.mantissa x.exponent

/-- The midpoint to the next smaller value. Below a power of two the steps are half
as wide. -/
def lowerMidpoint (x : Binary64) : Ratio :=
  if x.mantissa = 1 <<< 52 ∧ minExponent < x.exponent then
    .ofBinary (4 * x.mantissa - 1) (x.exponent - 2)
  else .ofBinary (4 * x.mantissa - 2) (x.exponent - 2)

/-- The midpoint to the next larger value. -/
def upperMidpoint (x : Binary64) : Ratio :=
  .ofBinary (4 * x.mantissa + 2) (x.exponent - 2)

/-- Whether a decimal reads back as the size of `x`. -/
def readsBack (x : Binary64) (r : Ratio) : Bool :=
  if x.mantissa % 2 = 0 then (lowerMidpoint x).le r && r.le (upperMidpoint x)
  else (lowerMidpoint x).lt r && r.lt (upperMidpoint x)

/-- The exponent of the first digit. No value is smaller than `10 ^ -400`. -/
def leadingExponent (x : Binary64) : Int :=
  let r := size x
  (Numeral.decimal (r.num * Nat.pow 10 400 / r.den)).length - 401

/-- The decimal of `digits` digits that reads back and is nearest, if one reads
back; a tie goes to the even last digit. -/
def onGrid? (x : Binary64) (digits : Nat) : Option (Nat × Int) :=
  let e := leadingExponent x - (digits - 1 : Nat)
  let r := size x
  let unit := Ratio.ofDecimal 1 e
  let below := r.num * unit.den / (r.den * unit.num)
  let above := below + 1
  match readsBack x (.ofDecimal below e), readsBack x (.ofDecimal above e) with
  | true, true =>
    let down := (Ratio.ofDecimal below e).distance r
    let up := (Ratio.ofDecimal above e).distance r
    if down.lt up then some (below, e)
    else if up.lt down then some (above, e)
    else some (if below % 2 = 0 then below else above, e)
  | true, false => some (below, e)
  | false, true => some (above, e)
  | false, false => none

/-- The digits of the shortest decimal, without zeros at the end, and the exponent of
the first one. Seventeen digits always read back. -/
def shortest (x : Binary64) : List Char × Int :=
  let (n, e) := ((List.range 17).findSome? fun i => onGrid? x (i + 1)).getD (0, 0)
  let digits := Numeral.decimal n
  ((digits.reverse.dropWhile (· == '0')).reverse, e + (digits.length - 1 : Nat))

end ServiceLocator.Binary64
