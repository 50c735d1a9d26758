import Mathlib.Data.List.Induction
import Mathlib.Data.Nat.Digits.Defs
import QueryLayer.Proofs.Reading.Numeral
import QueryLayer.Proofs.Text.Digits

/-!
# The texts of counts

The text of a count has its digits, with any zeros in front, at most one plus sign before them and
blanks around it all. These texts are read as the counts that they write and no other text is: one
that writes a number too large for a word is no count, it is neither cut to the size of a word nor
taken for the largest one. Among the numbers the whole ones from zero up are counts, as far as words
go.
-/
namespace QueryLayer

namespace Text
open Reading (DigitRun)

/-- The number that digits write, the last of them for the ones. -/
def decimal (digits : List Char) : Nat :=
  Nat.ofDigits 10 (digits.reverse.map fun c => c.toNat - '0'.toNat)

/-- A count as a text: blanks, perhaps a plus sign, digits, blanks. -/
structure CountText where
  before : List Char
  plus : Bool
  digits : DigitRun
  after : List Char
  before_blank : ∀ c ∈ before, isBlank c = true
  after_blank : ∀ c ∈ after, isBlank c = true

namespace CountText

/-- The sign and the digits. -/
def signed (text : CountText) : List Char :=
  (if text.plus then ['+'] else []) ++ text.digits.chars

/-- The text as it is written. -/
def chars (text : CountText) : List Char := text.before ++ text.signed ++ text.after

/-- The number that the text writes. -/
def value (text : CountText) : Nat := decimal text.digits.chars

end CountText

theorem ofDigitChars_eq_decimal (digits : List Char) :
    Nat.ofDigitChars 10 digits 0 = decimal digits := by
  induction digits using List.reverseRecOn with
  | nil => rfl
  | append_singleton digits c ih =>
    rw [Nat.ofDigitChars_append, ih, decimal, decimal, List.reverse_append, List.reverse_singleton,
      List.singleton_append, List.map_cons, Nat.ofDigits_cons, Nat.ofDigitChars_cons,
      Nat.ofDigitChars_nil, Nat.add_comm]

theorem digits?_eq_some_iff {cs : List Char} {n : Nat} :
    digits? cs = some n ↔ ∃ run : DigitRun, run.chars = cs ∧ decimal run.chars = n := by
  rw [digits?, ofDigitChars_eq_decimal]
  constructor
  · intro h
    split at h
    · next hdigits =>
      cases h
      exact ⟨⟨cs, hdigits.1, List.all_eq_true.1 hdigits.2⟩, rfl, rfl⟩
    · cases h
  · rintro ⟨run, rfl, rfl⟩
    rw [if_pos ⟨run.ne_nil, List.all_eq_true.2 run.isDigit⟩]

/-- A text without its plus sign is the text, or has one character less. -/
theorem exists_sign (cs : List Char) :
    ∃ plus : Bool, cs = (if plus then ['+'] else []) ++ unsigned cs := by
  rw [unsigned.eq_def]
  split
  · exact ⟨true, rfl⟩
  · exact ⟨false, rfl⟩

/-- Trimming leaves what stands between blanks. -/
theorem trim_append {before core after : List Char} (hbefore : ∀ c ∈ before, isBlank c = true)
    (hcore : ∀ c ∈ core, isBlank c = false) (hne : core ≠ [])
    (hafter : ∀ c ∈ after, isBlank c = true) : trim (before ++ core ++ after) = core := by
  have hstart (rest : List Char) : trimStart (core ++ rest) = core ++ rest := by
    cases core with
    | nil => exact absurd rfl hne
    | cons c core => exact trimStart_cons_of_not_isBlank (hcore c List.mem_cons_self) _
  have hend : trimEnd (core ++ after) = trimEnd core := by
    rw [trimEnd, trimEnd, List.reverse_append,
      List.dropWhile_append_of_pos fun c hc => hafter c (List.mem_reverse.1 hc)]
  calc trim (before ++ core ++ after)
      = trimEnd (trimStart (core ++ after)) := by
        rw [trim, trimStart, List.append_assoc, List.dropWhile_append_of_pos hbefore, trimStart]
    _ = trimEnd core := by rw [hstart, hend]
    _ = trim core := by rw [trim, ← List.append_nil core, hstart]
    _ = core := trim_of_forall hcore

/-- What trimming takes off are blanks. -/
theorem exists_blanks (cs : List Char) : ∃ before after, (∀ c ∈ before, isBlank c = true) ∧
    (∀ c ∈ after, isBlank c = true) ∧ cs = before ++ trim cs ++ after := by
  refine ⟨cs.takeWhile isBlank, ((trimStart cs).reverse.takeWhile isBlank).reverse, ?_, ?_, ?_⟩
  · exact fun c hc => List.mem_takeWhile_imp hc
  · exact fun c hc => List.mem_takeWhile_imp (List.mem_reverse.1 hc)
  · rw [List.append_assoc, trim, trimEnd, ← List.reverse_append, List.takeWhile_append_dropWhile,
      List.reverse_reverse, trimStart, List.takeWhile_append_dropWhile]

namespace CountText

theorem trim_chars (text : CountText) : trim text.chars = text.signed := by
  refine trim_append text.before_blank (fun c hc => ?_) ?_ text.after_blank
  · rcases List.mem_append.1 hc with hsign | hdigit
    · have hplus : c = '+' := by cases h : text.plus <;> simp_all
      rw [hplus]
      rfl
    · exact isBlank_of_isDigit (text.digits.isDigit c hdigit)
  · exact List.append_ne_nil_of_right_ne_nil _ text.digits.ne_nil

/-- The number that a text writes is read from it. -/
theorem digits?_chars (text : CountText) : digits? (unsigned (trim text.chars)) = some text.value := by
  have hunsigned : unsigned text.signed = text.digits.chars := by
    rw [signed]
    cases text.plus with
    | true => rfl
    | false => exact unsigned_of_isDigit text.digits.isDigit
  rw [trim_chars, hunsigned]
  exact digits?_eq_some_iff.2 ⟨text.digits, rfl, rfl⟩

/-- A text from which a number is read writes it. -/
theorem exists_of_digits? {cs : List Char} {n : Nat} (h : digits? (unsigned (trim cs)) = some n) :
    ∃ text : CountText, cs = text.chars ∧ text.value = n := by
  obtain ⟨before, after, hbefore, hafter, hcs⟩ := exists_blanks cs
  obtain ⟨plus, hplus⟩ := exists_sign (trim cs)
  obtain ⟨run, hrun, hn⟩ := digits?_eq_some_iff.1 h
  refine ⟨⟨before, plus, run, after, hbefore, hafter⟩, ?_, hn⟩
  rw [chars, signed, hrun, ← hplus]
  exact hcs

end CountText

/-- The number of a word is the number that is read. -/
theorem uint64?_eq_some_iff {cs : List Char} {n : UInt64} :
    uint64? cs = some n ↔ digits? (unsigned cs) = some n.toNat := by
  rw [uint64?, Option.map_eq_some_iff]
  constructor
  · rintro ⟨m, hm, rfl⟩
    obtain ⟨hread, hbound⟩ := natBelow?_eq_some_iff.1 hm
    rw [hread, UInt64.toNat_ofNat_of_lt' hbound]
  · intro h
    exact ⟨n.toNat, natBelow?_eq_some_iff.2 ⟨h, n.toNat_lt⟩, UInt64.ofNat_toNat⟩

end Text

namespace Json.Value
open Text (CountText)

/-- What is read as counts. -/
structure ReadsCounts (read : Value → Option UInt64) : Prop where
  /-- A text is a count just where it writes the count. -/
  string_iff : ∀ (s : String) (n : UInt64),
    read (.string s) = some n ↔ ∃ text : CountText, s.toList = text.chars ∧ text.value = n.toNat
  /-- A number that has no place in a word is not made to have one. -/
  string_eq : ∀ text : CountText, read (.string (String.ofList text.chars)) =
    if text.value < UInt64.size then some (UInt64.ofNat text.value) else none
  /-- A number is a count just where it is that whole number. Floating numbers are no counts. -/
  number_iff : ∀ (m : Number) (n : UInt64), read (.number m) = some n ↔ m = .int n.toNat
  /-- A printed count is read back, from its text and from its number. -/
  printed : ∀ n : UInt64,
    read (.string (toString n)) = some n ∧ read (.number (.int n.toNat)) = some n

theorem count?_number_eq_some_iff {m : Number} {n : UInt64} :
    (number m).count? = some n ↔ m = .int n.toNat := by
  cases m with
  | float x => simp [count?]
  | int z =>
    rw [count?, Number.int.injEq]
    constructor
    · intro h
      split at h
      · next hz =>
        cases h
        rw [UInt64.toNat_ofNat_of_lt' (by omega)]
        omega
      · cases h
    · rintro rfl
      have hn : n.toNat < UInt64.size := n.toNat_lt
      rw [if_pos (by omega), Int.toNat_natCast, UInt64.ofNat_toNat]

/-- **Counts are read exactly**: from the texts that write them and from the whole numbers that they
are, and from nothing that has no place in a word. -/
theorem readsCounts : ReadsCounts count? where
  string_iff s n := by
    rw [count?, Text.uint64?_eq_some_iff]
    constructor
    · exact CountText.exists_of_digits?
    · rintro ⟨text, hs, hn⟩
      rw [hs, text.digits?_chars, hn]
  string_eq text := by
    rw [count?, String.toList_ofList, Text.uint64?, Text.natBelow?, text.digits?_chars,
      Option.filter_some]
    by_cases hvalue : text.value < UInt64.size <;> simp [hvalue]
  number_iff m n := count?_number_eq_some_iff
  printed n := by
    have hnumber : (number (.int n.toNat)).count? = some n := count?_number_eq_some_iff.2 rfl
    refine ⟨?_, hnumber⟩
    rw [← hnumber, ← count?_text]
    rfl

end Json.Value
end QueryLayer
