import QueryLayer.Decimal.Shortest

/-!
# Layout of decimals

A layout says for which numbers the digits are written in their places. All others are
written with a power of ten, whose sign is always there.
-/
namespace QueryLayer.Decimal

/-- The powers of ten of the first digit, from `least` to `greatest`, at which the digits are
written in their places. -/
structure Layout where
  least : Int
  greatest : Int

namespace Digits

/-- Digits in their places, with at least one digit on either side of the point. -/
def positional (d : Digits) : String :=
  if d.exponent < 0 then
    "0." ++ String.ofList (List.replicate (-d.exponent - 1).toNat '0' ++ d.digits)
  else
    let whole := d.exponent.toNat + 1
    String.ofList (d.digits.take whole ++ List.replicate (whole - d.digits.length) '0') ++ "." ++
      String.ofList (if d.digits.length ≤ whole then ['0'] else d.digits.drop whole)

/-- One digit before the point, and the power of ten with its sign. -/
def scientific (d : Digits) : String :=
  String.ofList (d.digits.take 1) ++
    (if d.digits.length ≤ 1 then "" else "." ++ String.ofList (d.digits.drop 1)) ++
    (if d.exponent < 0 then "e-" else "e+") ++ toString d.exponent.natAbs

end Digits

/-- A number written in a layout, with a sign when the sign bit is set. -/
def Layout.write (layout : Layout) (x : Binary64) : String :=
  let d := x.shortest
  (if x.isNegative then "-" else "") ++
    if layout.least ≤ d.exponent ∧ d.exponent ≤ layout.greatest then d.positional
    else d.scientific

end QueryLayer.Decimal
