import QueryLayer.Text.Digits
import QueryLayer.Text.Split

/-!
# Addresses of hosts

An address of version 4 is four numbers below 256, of version 6 eight groups of hexadecimal
digits, of which a double colon may stand for one or more that are zero. The last two groups
may be written as an address of version 4.
-/
namespace QueryLayer.Postgres.HostAddress
open QueryLayer.Text (pieces cut?)

/-- A number below 256, without zeros before it. -/
def isOctet (cs : List Char) : Bool :=
  cs ≠ [] && cs.length ≤ 3 && cs.all Char.isDigit && (cs.head? ≠ some '0' || cs.length = 1) &&
    Nat.ofDigitChars 10 cs 0 < 256

/-- An address of version 4. -/
def isVersion4 (cs : List Char) : Bool :=
  let octets := pieces '.' cs
  octets.length = 4 && octets.all isOctet

/-- A group of one to four hexadecimal digits. -/
def isGroup (cs : List Char) : Bool :=
  cs ≠ [] && cs.length ≤ 4 && cs.all fun c => (Text.hexDigit? c).isSome

/-- The number of groups in a part without a double colon. -/
def groups? (mixed : Bool) (cs : List Char) : Option Nat :=
  if cs = [] then some 0
  else
    let parts := pieces ':' cs
    if parts.all isGroup then some parts.length
    else if mixed && parts.dropLast.all isGroup && parts.getLast?.any isVersion4 then
      some (parts.length + 1)
    else none

/-- An address of version 6. -/
def isVersion6 (cs : List Char) : Bool :=
  match cut? [':', ':'] cs with
  | none => groups? true cs = some 8
  | some (head, tail) =>
    match groups? false head, groups? true tail with
    | some m, some n => m + n ≤ 7
    | _, _ => false

/-- An address of either version. -/
def isValid (cs : List Char) : Bool := isVersion4 cs || isVersion6 cs

end QueryLayer.Postgres.HostAddress
