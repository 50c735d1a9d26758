/-!
# Durations

A duration is a number of nanoseconds, written in the largest of four units in which it is at
least one, with all the places it needs and no more.
-/
namespace QueryLayer

/-- A span of time. -/
structure Duration where
  nanoseconds : Nat
  deriving Repr, DecidableEq

namespace Duration

instance : LE Duration := ⟨fun a b => a.nanoseconds ≤ b.nanoseconds⟩
instance (a b : Duration) : Decidable (a ≤ b) :=
  inferInstanceAs (Decidable (a.nanoseconds ≤ b.nanoseconds))

/-- A span of milliseconds. -/
def ofMilliseconds (n : Nat) : Duration := ⟨n * 1000000⟩

/-- The whole milliseconds of a span. -/
def milliseconds (d : Duration) : Nat := d.nanoseconds / 1000000

/-- The places of `part` out of ten to the power `places`, without the zeros at the end. -/
def fractionDigits (places part : Nat) : List Char :=
  let digits := Nat.toDigits 10 part
  ((List.replicate (places - digits.length) '0' ++ digits).reverse.dropWhile (· = '0')).reverse

/-- A number of nanoseconds in a unit of ten to the power `places` of them. -/
def inUnit (places : Nat) (unit : String) (n : Nat) : String :=
  let size := Nat.pow 10 places
  toString (n / size) ++
    (if n % size = 0 then "" else "." ++ String.ofList (fractionDigits places (n % size))) ++ unit

/-- A duration in seconds, milliseconds, microseconds or nanoseconds. -/
def text (d : Duration) : String :=
  if 1000000000 ≤ d.nanoseconds then inUnit 9 "s" d.nanoseconds
  else if 1000000 ≤ d.nanoseconds then inUnit 6 "ms" d.nanoseconds
  else if 1000 ≤ d.nanoseconds then inUnit 3 "µs" d.nanoseconds
  else inUnit 0 "ns" d.nanoseconds

end Duration
end QueryLayer
