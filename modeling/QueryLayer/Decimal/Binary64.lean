/-!
# Finite binary64 numbers

A finite binary64 number is a sign, a whole significand and a power of two that scales it. The
infinities and the values that are no numbers are left out by the type.
-/
namespace QueryLayer.Decimal

/-- The bits of a binary64 number whose exponent field marks it as finite. -/
structure Binary64 where
  bits : UInt64
  finite : bits >>> 52 &&& 0x7FF ≠ 0x7FF
  deriving DecidableEq

namespace Binary64

/-- The number of given bits, if it is finite. -/
def ofBits? (bits : UInt64) : Option Binary64 :=
  if h : bits >>> 52 &&& 0x7FF ≠ 0x7FF then some ⟨bits, h⟩ else none

/-- The number a floating-point value holds, if it is finite. -/
def ofFloat? (x : Float) : Option Binary64 := ofBits? x.toBits

/-- Whether the sign bit is set; the zero has both signs. -/
def isNegative (x : Binary64) : Bool := x.bits >>> 63 = 1

/-- The field of the exponent, zero for the numbers without a leading one. -/
def exponentField (x : Binary64) : Nat := (x.bits >>> 52 &&& 0x7FF).toNat

/-- The field of the fraction. -/
def fraction (x : Binary64) : Nat := (x.bits &&& 0xFFFFFFFFFFFFF).toNat

/-- The whole number that `2 ^ scale` multiplies. -/
def significand (x : Binary64) : Nat :=
  if x.exponentField = 0 then x.fraction else 0x10000000000000 + x.fraction

/-- The power of two that multiplies the significand. -/
def scale (x : Binary64) : Int :=
  if x.exponentField = 0 then -1074 else (x.exponentField : Int) - 1075

/-- Whether the number is a zero of either sign. -/
def isZero (x : Binary64) : Bool := x.significand = 0

/-- Equality as numbers: the two zeros are one number. -/
def same (x y : Binary64) : Bool := x = y || (x.isZero && y.isZero)

@[simp] theorem same_self (x : Binary64) : x.same x = true := by simp [same]

end Binary64
end QueryLayer.Decimal
