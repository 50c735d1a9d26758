import Mathlib.Data.List.TakeWhile
import QueryLayer.Json.Scalar

/-!
# Counts from numbers and from their texts

A server may give a number as a number or as its text. The text of a whole number is read as the same
count, and the text of any other number, with its sign, its point or its power of ten, as no count;
so it makes no difference which of the two a count is read from.
-/
namespace QueryLayer

namespace Text
variable {c : Char} {cs : List Char}

theorem isBlank_of_isDigit (h : c.isDigit = true) : isBlank c = false := by
  have hrange : 48 ≤ c.toNat ∧ c.toNat ≤ 57 := by simpa [Char.isDigit, UInt32.le_iff_toNat_le] using h
  have hspace : c ≠ ' ' := by
    rintro rfl
    simp at hrange
  simp only [isBlank, wideBlanks, hspace]
  simp
  omega

/-- Trimming takes nothing but blanks. -/
theorem mem_trim (hc : c ∈ cs) (hblank : isBlank c = false) : c ∈ trim cs := by
  have hdropped : ∀ l : List Char, c ∈ l → c ∈ l.dropWhile isBlank := by
    intro l hl
    rw [← List.takeWhile_append_dropWhile (p := isBlank) (l := l), List.mem_append] at hl
    apply hl.resolve_left
    intro htaken
    rw [List.mem_takeWhile_imp htaken] at hblank
    cases hblank
  rw [trim, trimEnd, trimStart, List.mem_reverse]
  exact hdropped _ (List.mem_reverse.2 (hdropped _ hc))

/-- A text without blanks is left as it is. -/
theorem trim_of_forall (h : ∀ c ∈ cs, isBlank c = false) : trim cs = cs := by
  have hkept : ∀ l : List Char, (∀ c ∈ l, isBlank c = false) → l.dropWhile isBlank = l := by
    intro l hl
    cases l with
    | nil => rfl
    | cons c l => exact List.dropWhile_cons_of_neg (by simp [hl c List.mem_cons_self])
  have hreverse : ∀ c ∈ cs.reverse, isBlank c = false := fun c hc => h c (List.mem_reverse.1 hc)
  rw [trim, trimEnd, trimStart, hkept cs h, hkept cs.reverse hreverse, List.reverse_reverse]

/-- Digits have no sign that could be taken off them. -/
theorem unsigned_of_isDigit (h : ∀ c ∈ cs, c.isDigit = true) : unsigned cs = cs := by
  rw [unsigned.eq_def]
  split
  · next rest =>
    have hplus := h '+' List.mem_cons_self
    simp at hplus
  · rfl

/-- Nothing is read from a text with a character that no whole number has. -/
theorem uint64?_trim_eq_none (hc : c ∈ cs) (hblank : isBlank c = false) (hplus : c ≠ '+')
    (hdigit : c.isDigit = false) : uint64? (trim cs) = none := by
  have hunsigned : c ∈ unsigned (trim cs) := by
    have htrim := mem_trim hc hblank
    rw [unsigned.eq_def]
    split
    · next rest heq => exact (List.mem_cons.1 (heq ▸ htrim)).resolve_left hplus
    · exact htrim
  have hdigits : digits? (unsigned (trim cs)) = none := by
    rw [digits?, if_neg]
    rintro ⟨-, hall⟩
    rw [List.all_eq_true.1 hall c hunsigned] at hdigit
    cases hdigit
  simp [uint64?, natBelow?, hdigits]

/-- The digits of a number are read as the number, if it has a place in a word. -/
theorem uint64?_trim_toDigits (n : Nat) :
    uint64? (trim (Nat.toDigits 10 n)) =
      if n < UInt64.size then some (UInt64.ofNat n) else none := by
  have hdigit : ∀ c ∈ Nat.toDigits 10 n, c.isDigit = true := fun c hc =>
    Nat.isDigit_of_mem_toDigits (by omega) (by omega) hc
  rw [trim_of_forall fun c hc => isBlank_of_isDigit (hdigit c hc), uint64?, natBelow?,
    unsigned_of_isDigit hdigit, digits?_toDigits]
  by_cases hn : n < UInt64.size
  · simp [Option.filter_some, hn]
  · simp [Option.filter_some, hn]

end Text

namespace Decimal

theorem Digits.point_mem_positional (d : Digits) : '.' ∈ d.positional.toList := by
  rw [positional]
  split <;> simp

theorem Digits.letter_mem_scientific (d : Digits) : 'e' ∈ d.scientific.toList := by
  rw [scientific]
  by_cases hneg : d.exponent < 0 <;> simp [hneg]

/-- In every layout a floating number has a point or the letter of a power of ten. -/
theorem Layout.exists_mark (layout : Layout) (x : Binary64) :
    ∃ c ∈ (layout.write x).toList, c = '.' ∨ c = 'e' := by
  rw [write, String.toList_append]
  by_cases hplaces : layout.least ≤ x.shortest.exponent ∧ x.shortest.exponent ≤ layout.greatest
  · rw [if_pos hplaces]
    exact ⟨'.', List.mem_append_right _ x.shortest.point_mem_positional, .inl rfl⟩
  · rw [if_neg hplaces]
    exact ⟨'e', List.mem_append_right _ x.shortest.letter_mem_scientific, .inr rfl⟩

end Decimal

namespace Json

/-- A count is the same from a number and from its text. -/
theorem Value.count?_text (n : Number) : (string n.text).count? = (number n).count? := by
  cases n with
  | int value =>
    by_cases hvalue : 0 ≤ value
    · obtain ⟨n, rfl⟩ := Int.eq_ofNat_of_zero_le hvalue
      have htext : (Number.int n).text.toList = Nat.toDigits 10 n := by
        simp [Number.text, Int.repr_eq_if]
      rw [count?, count?, htext, Text.uint64?_trim_toDigits]
      by_cases hn : n < UInt64.size
      · rw [if_pos hn, if_pos ⟨hvalue, by omega⟩]
        rfl
      · rw [if_neg hn, if_neg]
        omega
    · have hsign : '-' ∈ (Number.int value).text.toList := by
        simp [Number.text, Int.repr_eq_if, hvalue]
      have hnone := Text.uint64?_trim_eq_none hsign rfl (by simp) rfl
      rw [count?, count?, hnone, if_neg]
      exact fun hrange => hvalue hrange.1
  | float x =>
    obtain ⟨c, hc, rfl | rfl⟩ := layout.exists_mark x
    · exact Text.uint64?_trim_eq_none hc rfl (by simp) rfl
    · exact Text.uint64?_trim_eq_none hc rfl (by simp) rfl

end Json
end QueryLayer
