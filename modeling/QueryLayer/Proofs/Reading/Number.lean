import QueryLayer.Proofs.Reading.Numeral

/-!
# The text of a number is a numeral

Whole numbers are digits with a sign. A floating number has at least one digit among its
shortest ones, so neither of its layouts leaves a place without digits. What a statement holds
for a number is therefore one numeral and never an expression.
-/
namespace QueryLayer
open Reading

namespace Decimal

/-- Only zero is written with zeros alone. -/
theorem exists_ne_zero_of_toDigits {n : Nat} (hn : n ≠ 0) :
    ∃ c ∈ Nat.toDigits 10 n, c ≠ '0' := by
  by_contra h
  have hall : ∀ c ∈ Nat.toDigits 10 n, c = '0' := by simpa using h
  have hzeros : ∀ cs : List Char, (∀ c ∈ cs, c = '0') → Nat.ofDigitChars 10 cs 0 = 0 := by
    intro cs hcs
    induction cs with
    | nil => rfl
    | cons c cs ih =>
      obtain rfl := hcs c List.mem_cons_self
      rw [Nat.ofDigitChars_cons]
      exact ih fun d hd => hcs d (List.mem_cons_of_mem _ hd)
  apply hn
  calc
    n = Nat.ofDigitChars 10 (Nat.toDigits 10 n) 0 := Nat.ofDigitChars_ten_toDigits.symm
    _ = 0 := hzeros _ hall

/-- Digits of which there is at least one, all of them decimal. -/
structure Digits.Sound (d : Digits) : Prop where
  ne_nil : d.digits ≠ []
  isDigit : ∀ c ∈ d.digits, c.isDigit = true

namespace Rounding

/-- Zero is not in an interval that begins above it. -/
theorem covers_zero {r : Rounding} (h : 0 < r.low) : r.covers 0 = false := by
  have hlow : ¬ r.low ≤ 0 := by omega
  have hlow' : ¬ r.low < 0 := by omega
  simp [covers, hlow, hlow']

theorem ne_zero_of_nearest? {r : Rounding} (h : 0 < r.low) {c : Nat} (hc : r.nearest? = some c) :
    c ≠ 0 := by
  rintro rfl
  rw [nearest?] at hc
  split at hc
  · cases hc
  · next hdown _ =>
    rw [Option.some.inj hc, Nat.zero_mul, covers_zero h] at hdown
    cases hdown
  · exact absurd (Option.some.inj hc) (Nat.succ_ne_zero _)
  · next hdown _ =>
    have hzero := Option.some.inj hc
    split at hzero
    · rw [hzero, Nat.zero_mul, covers_zero h] at hdown
      cases hdown
    · exact absurd hzero (Nat.succ_ne_zero _)

theorem low_inUnits {r : Rounding} (h : 0 < r.low) (e : Int) : 0 < (r.inUnits e).low :=
  Nat.mul_pos h (Nat.pow_pos (by omega))

theorem sound_of_withDigits? {r : Rounding} (h : 0 < r.low) {n : Nat} {d : Digits}
    (hd : r.withDigits? n = some d) : d.Sound := by
  obtain ⟨c, hc, rfl⟩ := Option.map_eq_some_iff.1 hd
  obtain ⟨x, hx, hx0⟩ := exists_ne_zero_of_toDigits (ne_zero_of_nearest? (low_inUnits h _) hc)
  refine ⟨?_, ?_⟩
  · simp only [ne_eq, List.reverse_eq_nil_iff, List.dropWhile_eq_nil_iff]
    intro hall
    exact hx0 (by simpa using hall x (List.mem_reverse.2 hx))
  · intro y hy
    have hmem := (List.dropWhile_sublist _).subset (List.mem_reverse.1 hy)
    exact Nat.isDigit_of_mem_toDigits (by omega) (by omega) (List.mem_reverse.1 hmem)

end Rounding

namespace Binary64

/-- A number that is no zero has an interval of positive numbers. -/
theorem low_rounding {x : Binary64} (h : x.isZero = false) : 0 < x.rounding.low := by
  have hm : x.significand ≠ 0 := by simpa [isZero] using h
  have hup : 0 < 1 <<< (x.scale - 2).toNat := by
    rw [Nat.shiftLeft_eq, Nat.one_mul]
    exact Nat.two_pow_pos _
  refine Nat.mul_pos ?_ hup
  split <;> omega

theorem sound_shortest (x : Binary64) : x.shortest.Sound := by
  have hnone : Digits.Sound ⟨['0'], 0⟩ := ⟨by simp, by simp⟩
  rw [shortest]
  split
  · exact hnone
  · next h =>
    cases hfound : (List.range 17).findSome? fun n => x.rounding.withDigits? (n + 1) with
    | none => exact hnone
    | some d =>
      obtain ⟨n, -, hn⟩ := List.exists_of_findSome?_eq_some hfound
      exact Rounding.sound_of_withDigits? (low_rounding (by simpa using h)) hn

end Binary64

/-- The digits of a natural number. -/
def runOfNat (n : Nat) : DigitRun where
  chars := Nat.toDigits 10 n
  ne_nil := Nat.toDigits_ne_nil
  isDigit _ hc := Nat.isDigit_of_mem_toDigits (by omega) (by omega) hc

namespace Digits
variable {d : Digits}

theorem exists_positional (h : d.Sound) :
    ∃ n : Numeral, d.positional.toList = n.magnitude := by
  have hzero : ∀ n, ∀ c ∈ List.replicate n '0', c.isDigit = true := by
    intro n c hc
    rw [List.eq_of_mem_replicate hc]
    decide
  rw [positional]
  split
  · let whole : DigitRun := ⟨['0'], by simp, by simp⟩
    let fraction : DigitRun := ⟨List.replicate (-d.exponent - 1).toNat '0' ++ d.digits,
      by simp [h.ne_nil], fun c hc => (List.mem_append.1 hc).elim (hzero _ c) (h.isDigit c)⟩
    exact ⟨⟨false, whole, some fraction, none⟩,
      by simp [Numeral.magnitude, Numeral.fractionChars, Numeral.exponentChars, whole, fraction]⟩
  · let places := d.exponent.toNat + 1
    let whole := d.digits.take places ++ List.replicate (places - d.digits.length) '0'
    let fraction := if d.digits.length ≤ places then ['0'] else d.digits.drop places
    have hwhole : ∀ c ∈ whole, c.isDigit = true := by
      intro c hc
      exact (List.mem_append.1 hc).elim (fun hc => h.isDigit c (List.mem_of_mem_take hc)) (hzero _ c)
    have hfraction : ∀ c ∈ fraction, c.isDigit = true := by
      intro c hc
      simp only [fraction] at hc
      split at hc
      · simp_all
      · exact h.isDigit c (List.mem_of_mem_drop hc)
    have hne : fraction ≠ [] := by
      simp only [fraction]
      split
      · simp
      · simp only [ne_eq, List.drop_eq_nil_iff]
        omega
    exact ⟨⟨false, ⟨whole, by simp [whole, places, h.ne_nil], hwhole⟩,
        some ⟨fraction, hne, hfraction⟩, none⟩,
      by simp [Numeral.magnitude, Numeral.fractionChars, Numeral.exponentChars, whole, fraction,
        places]⟩

theorem exists_scientific (h : d.Sound) :
    ∃ n : Numeral, d.scientific.toList = n.magnitude := by
  let exponent := (decide (d.exponent < 0), runOfNat d.exponent.natAbs)
  have hexponent : ((if d.exponent < 0 then "e-" else "e+") ++
      toString d.exponent.natAbs).toList = Numeral.exponentChars (some exponent) := by
    by_cases hneg : d.exponent < 0 <;> simp [hneg, Numeral.exponentChars, exponent, runOfNat]
  let whole : DigitRun := ⟨d.digits.take 1, by simp [h.ne_nil],
    fun c hc => h.isDigit c (List.mem_of_mem_take hc)⟩
  by_cases hshort : d.digits.length ≤ 1
  · refine ⟨⟨false, whole, none, some exponent⟩, ?_⟩
    rw [Numeral.magnitude, ← hexponent]
    simp [scientific, hshort, whole, Numeral.fractionChars]
  · let fraction : DigitRun := ⟨d.digits.drop 1, by simp only [ne_eq, List.drop_eq_nil_iff]; omega,
      fun c hc => h.isDigit c (List.mem_of_mem_drop hc)⟩
    refine ⟨⟨false, whole, some fraction, some exponent⟩, ?_⟩
    rw [Numeral.magnitude, ← hexponent]
    simp [scientific, hshort, whole, fraction, Numeral.fractionChars]

end Digits

/-- In any layout a floating number is written as a numeral. -/
theorem Layout.exists_numeral (layout : Layout) (x : Binary64) :
    ∃ n : Numeral, (layout.write x).toList = n.chars := by
  have hsign : ((if x.isNegative then "-" else "") : String).toList =
      if x.isNegative then ['-'] else [] := by cases x.isNegative <;> rfl
  have hmagnitude : ∃ n : Numeral,
      (if layout.least ≤ x.shortest.exponent ∧ x.shortest.exponent ≤ layout.greatest then
        x.shortest.positional else x.shortest.scientific).toList = n.magnitude := by
    split
    · exact Digits.exists_positional x.sound_shortest
    · exact Digits.exists_scientific x.sound_shortest
  obtain ⟨n, hn⟩ := hmagnitude
  refine ⟨{ n with negative := x.isNegative }, ?_⟩
  rw [write, String.toList_append, hsign, hn]
  rfl

end Decimal

/-- The text of a number is a numeral. -/
theorem Json.Number.exists_numeral (number : Json.Number) :
    ∃ n : Numeral, number.text.toList = n.chars := by
  cases number with
  | int value =>
    by_cases hvalue : 0 ≤ value
    · refine ⟨⟨false, Decimal.runOfNat value.toNat, none, none⟩, ?_⟩
      simp [Number.text, Int.repr_eq_if, hvalue, Numeral.chars, Numeral.magnitude,
        Numeral.fractionChars, Numeral.exponentChars, Decimal.runOfNat]
    · refine ⟨⟨true, Decimal.runOfNat (-value).toNat, none, none⟩, ?_⟩
      simp [Number.text, Int.repr_eq_if, hvalue, Numeral.chars, Numeral.magnitude,
        Numeral.fractionChars, Numeral.exponentChars, Decimal.runOfNat]
  | float value => exact Json.layout.exists_numeral value

end QueryLayer
