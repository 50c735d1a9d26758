import QueryLayer.Decimal.Binary64

/-!
# Shortest decimal digits

Every binary64 number is the nearest one to all reals of an interval around it. The shortest
digits name a decimal inside that interval: with as few digits as any in it, and among those
the nearest to the number, of two equally near the even one. All arithmetic is exact.
-/
namespace QueryLayer.Decimal

/-- Digits `d₁ d₂ d₃ …` that stand for `d₁.d₂d₃… · 10 ^ exponent`. -/
structure Digits where
  digits : List Char
  exponent : Int
  deriving Repr, DecidableEq

/-- A positive number `num / den` with the ends `low / den` and `high / den` of the interval of
reals that are read as it, the ends included where `closed`. -/
structure Rounding where
  num : Nat
  low : Nat
  high : Nat
  den : Nat
  closed : Bool

/-- The interval of a number. Its lower half is half as wide below a power of two, where the
numbers lie twice as dense; the ends belong to it when the significand is even. -/
def Binary64.rounding (x : Binary64) : Rounding :=
  let m := x.significand
  let up := 1 <<< (x.scale - 2).toNat
  let below := if x.fraction = 0 ∧ 1 < x.exponentField then 1 else 2
  { num := 4 * m * up
    low := (4 * m - below) * up
    high := (4 * m + 2) * up
    den := 1 <<< (2 - x.scale).toNat
    closed := m % 2 = 0 }

namespace Rounding

/-- The number of decimal digits. -/
def digitCount (n : Nat) : Nat := (Nat.toDigits 10 n).length

/-- The power of ten of the first digit. -/
def leading (r : Rounding) : Int :=
  if r.den ≤ r.num then (digitCount (r.num / r.den) : Int) - 1
  else -(digitCount ((r.den - 1) / r.num) : Int)

/-- Whether `c / den` lies in the interval, for a numerator `c`. -/
def covers (r : Rounding) (c : Nat) : Bool :=
  if r.closed then r.low ≤ c && c ≤ r.high else r.low < c && c < r.high

/-- Numerator and denominator in units of `10 ^ e`. -/
def inUnits (r : Rounding) (e : Int) : Rounding :=
  let up := Nat.pow 10 (-e).toNat
  { num := r.num * up, low := r.low * up, high := r.high * up
    den := r.den * Nat.pow 10 e.toNat, closed := r.closed }

/-- The whole number nearest to `num / den` that the interval covers, of two equally near the
even one. -/
def nearest? (r : Rounding) : Option Nat :=
  let down := r.num / r.den
  let up := down + 1
  match r.covers (down * r.den), r.covers (up * r.den) with
  | false, false => none
  | true, false => some down
  | false, true => some up
  | true, true =>
    let toDown := r.num - down * r.den
    let toUp := up * r.den - r.num
    some (if toDown < toUp ∨ (toDown = toUp ∧ down % 2 = 0) then down else up)

/-- A decimal of `n` digits in the interval, if there is one. -/
def withDigits? (r : Rounding) (n : Nat) : Option Digits :=
  let unit := r.leading + 1 - n
  (r.inUnits unit).nearest?.map fun c =>
    { digits := ((Nat.toDigits 10 c).reverse.dropWhile (· = '0')).reverse
      exponent := unit + digitCount c - 1 }

end Rounding

/-- The shortest digits of a number's magnitude. Seventeen digits always suffice. -/
def Binary64.shortest (x : Binary64) : Digits :=
  if x.isZero then ⟨['0'], 0⟩
  else ((List.range 17).findSome? fun n => x.rounding.withDigits? (n + 1)).getD ⟨['0'], 0⟩

end QueryLayer.Decimal
