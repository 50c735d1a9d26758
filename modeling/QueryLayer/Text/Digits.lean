/-!
# Digits

Whole numbers are read from ASCII digits. A leading `+` is allowed once, a leading `-` only
where negative numbers are, and a number outside the given range is refused: reading neither
wraps nor stops at the largest number.
-/
namespace QueryLayer.Text

/-- The number written by a nonempty run of digits. -/
def digits? (cs : List Char) : Option Nat :=
  if cs ≠ [] ∧ cs.all Char.isDigit then some (Nat.ofDigitChars 10 cs 0) else none

/-- The text after at most one plus sign. -/
def unsigned : List Char → List Char
  | '+' :: cs => cs
  | cs => cs

/-- A number below `bound`, with at most one plus sign before its digits. -/
def natBelow? (bound : Nat) (cs : List Char) : Option Nat :=
  (digits? (unsigned cs)).filter (· < bound)

/-- A number of a 64-bit word. -/
def uint64? (cs : List Char) : Option UInt64 := (natBelow? UInt64.size cs).map UInt64.ofNat

/-- The least number of which a signed 64-bit word holds the negative but not the number. -/
def int64Bound : Nat := 9223372036854775808

/-- A number of a signed 64-bit word. -/
def int64? : List Char → Option Int
  | '-' :: cs => ((digits? cs).filter (· ≤ int64Bound)).map fun n => -(n : Int)
  | cs => (natBelow? int64Bound cs).map fun n => (n : Int)

/-- The value of a hexadecimal digit, in small letters or in capitals. -/
def hexDigit? (c : Char) : Option Nat :=
  if c.isDigit then some (c.toNat - '0'.toNat)
  else if 'a' ≤ c ∧ c ≤ 'f' then some (c.toNat - 'a'.toNat + 10)
  else if 'A' ≤ c ∧ c ≤ 'F' then some (c.toNat - 'A'.toNat + 10)
  else none

/-- The byte of two hexadecimal digits. -/
def hexByte? (high low : Char) : Option UInt8 := do
  return UInt8.ofNat (16 * (← hexDigit? high) + (← hexDigit? low))

@[simp] theorem digits?_nil : digits? [] = none := rfl
@[simp] theorem unsigned_plus (cs : List Char) : unsigned ('+' :: cs) = cs := rfl

/-- Printed numbers are read back. -/
theorem digits?_toDigits (n : Nat) : digits? (Nat.toDigits 10 n) = some n := by
  have hd : (Nat.toDigits 10 n).all Char.isDigit = true := by
    rw [List.all_eq_true]
    intro c hc
    exact Nat.isDigit_of_mem_toDigits (by omega) (by omega) hc
  simp [digits?, hd, Nat.toDigits_ne_nil, Nat.ofDigitChars_toDigits]

/-- The number that is read is the one that the digits write, and it is below the bound. -/
theorem natBelow?_eq_some_iff {bound n : Nat} {cs : List Char} :
    natBelow? bound cs = some n ↔ digits? (unsigned cs) = some n ∧ n < bound := by
  rw [natBelow?, Option.filter_eq_some_iff, decide_eq_true_iff]

end QueryLayer.Text
