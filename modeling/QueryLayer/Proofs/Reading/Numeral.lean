import Mathlib.Data.List.TakeWhile
import Mathlib.Tactic.SplitIfs
import QueryLayer.Json.Text
import QueryLayer.Proofs.Reading.Front

/-!
# Reading numerals

A numeral is a run of digits with an optional minus sign, fraction and power of ten. The text of
every JSON number, whole or floating, is such a numeral, and a numeral is read back from where it
was written.
-/
namespace QueryLayer.Reading

/-- At least one digit, and nothing else. -/
structure DigitRun where
  chars : List Char
  ne_nil : chars ≠ []
  isDigit : ∀ c ∈ chars, c.isDigit = true

/-- A decimal number as it is written. A power of ten has its sign, minus where it is `true`. -/
structure Numeral where
  negative : Bool
  whole : DigitRun
  fraction : Option DigitRun
  exponent : Option (Bool × DigitRun)

namespace DigitRun

/-- A run of digits. -/
def read? : Reader DigitRun := fun cs =>
  if h : opens Char.isDigit cs then
    some (⟨cs.takeWhile Char.isDigit,
        by cases cs <;> simp_all,
        fun _ hc => List.mem_takeWhile_imp hc⟩,
      cs.dropWhile Char.isDigit)
  else none

end DigitRun

namespace Numeral

/-- A fraction with its point, or nothing. -/
def fractionChars (fraction : Option DigitRun) : List Char :=
  fraction.elim [] fun digits => '.' :: digits.chars

/-- A power of ten with its letter and its sign, or nothing. -/
def exponentChars (exponent : Option (Bool × DigitRun)) : List Char :=
  exponent.elim [] fun (negative, digits) =>
    'e' :: (if negative then '-' else '+') :: digits.chars

/-- The text of a numeral without its sign. -/
def magnitude (n : Numeral) : List Char :=
  n.whole.chars ++ fractionChars n.fraction ++ exponentChars n.exponent

/-- The text of a numeral. -/
def chars (n : Numeral) : List Char := (if n.negative then ['-'] else []) ++ n.magnitude

/-- Whether there is a minus sign, and what follows it. -/
def readSign : List Char → Bool × List Char
  | '-' :: cs => (true, cs)
  | cs => (false, cs)

/-- A fraction, if there is one. -/
def readFraction? : Reader (Option DigitRun)
  | '.' :: cs => (DigitRun.read? cs).map fun found => (some found.1, found.2)
  | cs => some (none, cs)

/-- A power of ten, if there is one. -/
def readExponent? : Reader (Option (Bool × DigitRun))
  | 'e' :: '-' :: cs => (DigitRun.read? cs).map fun found => (some (true, found.1), found.2)
  | 'e' :: '+' :: cs => (DigitRun.read? cs).map fun found => (some (false, found.1), found.2)
  | cs => some (none, cs)

/-- A numeral. -/
def read? : Reader Numeral := fun cs => do
  let (negative, cs) := readSign cs
  let (whole, cs) ← DigitRun.read? cs
  let (fraction, cs) ← readFraction? cs
  let (exponent, cs) ← readExponent? cs
  return (⟨negative, whole, fraction, exponent⟩, cs)

/-- What the whole part cannot be followed by unless it goes on. -/
def pointOrDigit (c : Char) : Bool := c.isDigit || c = '.'

/-- What a numeral cannot be followed by, since it would be read as more of it. -/
def goesOn (c : Char) : Bool := pointOrDigit c || c = 'e'

end Numeral

theorem DigitRun.read?_append (digits : DigitRun) {rest : List Char}
    (hrest : opens Char.isDigit rest = false) :
    DigitRun.read? (digits.chars ++ rest) = some (digits, rest) := by
  have hrun := run?_append digits.ne_nil digits.isDigit hrest
  unfold run? at hrun
  split_ifs at hrun with h
  obtain ⟨htake, hdrop⟩ := Prod.mk.injEq .. ▸ Option.some.inj hrun
  simp [DigitRun.read?, h, htake, hdrop]

namespace Numeral

/-- A numeral has digits, signs, a point and the letter of its exponent. -/
theorem isDigit_or_mem_of_mem_chars (n : Numeral) {c : Char} (h : c ∈ n.chars) :
    c.isDigit = true ∨ c ∈ ['-', '+', '.', 'e'] := by
  have hdigit (digits : DigitRun) (hc : c ∈ digits.chars) : c.isDigit = true := digits.isDigit c hc
  obtain ⟨negative, whole, fraction, exponent⟩ := n
  rw [chars, magnitude, List.mem_append, List.mem_append, List.mem_append] at h
  rcases h with hsign | (hwhole | hfraction) | hexponent
  · cases negative <;> simp_all
  · exact .inl (hdigit _ hwhole)
  · cases fraction with
    | none => cases hfraction
    | some digits =>
      rcases List.mem_cons.1 hfraction with rfl | hc
      · exact .inr (by decide)
      · exact .inl (hdigit _ hc)
  · cases exponent with
    | none => cases hexponent
    | some exponent =>
      rcases List.mem_cons.1 hexponent with rfl | hc
      · exact .inr (by decide)
      rcases List.mem_cons.1 hc with rfl | hc
      · cases exponent.1 <;> exact .inr (by decide)
      · exact .inl (hdigit _ hc)

theorem opens_exponentChars (exponent : Option (Bool × DigitRun)) {rest : List Char}
    (hrest : opens goesOn rest = false) :
    opens pointOrDigit (exponentChars exponent ++ rest) = false := by
  cases exponent with
  | none => exact opens_mono (by simp_all [goesOn]) hrest
  | some exponent => rfl

theorem opens_fractionChars (fraction : Option DigitRun) {rest : List Char}
    (hrest : opens pointOrDigit rest = false) :
    opens Char.isDigit (fractionChars fraction ++ rest) = false := by
  cases fraction with
  | none => exact opens_mono (by simp_all [pointOrDigit]) hrest
  | some digits => rfl

theorem readFraction?_append (fraction : Option DigitRun) {rest : List Char}
    (hrest : opens pointOrDigit rest = false) :
    readFraction? (fractionChars fraction ++ rest) = some (fraction, rest) := by
  cases fraction with
  | none =>
    cases rest with
    | nil => rfl
    | cons c rest =>
      have hc : c ≠ '.' := by rintro rfl; simp [pointOrDigit] at hrest
      simp [fractionChars, readFraction?, hc]
  | some digits =>
    have hdigit : opens Char.isDigit rest = false := opens_mono (by simp_all [pointOrDigit]) hrest
    simp [fractionChars, readFraction?, digits.read?_append hdigit]

theorem readExponent?_append (exponent : Option (Bool × DigitRun)) {rest : List Char}
    (hrest : opens goesOn rest = false) :
    readExponent? (exponentChars exponent ++ rest) = some (exponent, rest) := by
  cases exponent with
  | none =>
    cases rest with
    | nil => rfl
    | cons c rest =>
      have hc : c ≠ 'e' := by rintro rfl; simp [goesOn] at hrest
      simp [exponentChars, readExponent?, hc]
  | some exponent =>
    obtain ⟨negative, digits⟩ := exponent
    have hread := digits.read?_append (opens_mono (by simp_all [goesOn, pointOrDigit]) hrest)
    cases negative <;> simp [exponentChars, readExponent?, hread]

theorem readSign_append (negative : Bool) {rest : List Char} (hrest : rest.head? ≠ some '-') :
    readSign ((if negative then ['-'] else []) ++ rest) = (negative, rest) := by
  cases negative with
  | true => rfl
  | false =>
    cases rest with
    | nil => rfl
    | cons c rest =>
      have hc : c ≠ '-' := by rintro rfl; simp at hrest
      simp [readSign, hc]

/-- A numeral is read back from where it was written. -/
theorem read?_chars (n : Numeral) {rest : List Char} (hrest : opens goesOn rest = false) :
    read? (n.chars ++ rest) = some (n, rest) := by
  have hexponent := readExponent?_append n.exponent hrest
  have hfraction := readFraction?_append n.fraction (opens_exponentChars n.exponent hrest)
  have hwhole := n.whole.read?_append
    (opens_fractionChars n.fraction (opens_exponentChars n.exponent hrest))
  have hhead : (n.whole.chars ++ (fractionChars n.fraction ++
      (exponentChars n.exponent ++ rest))).head? ≠ some '-' := by
    obtain ⟨c, cs, hcs⟩ := List.exists_cons_of_ne_nil n.whole.ne_nil
    rw [hcs, List.cons_append, List.head?_cons]
    intro h
    cases h
    exact absurd (n.whole.isDigit '-' (hcs ▸ List.mem_cons_self)) (by decide)
  simp only [chars, magnitude, List.append_assoc, read?, readSign_append n.negative hhead, hwhole, hfraction,
    hexponent, Option.bind_eq_bind, Option.bind_some]
  rfl

end Numeral
end QueryLayer.Reading
