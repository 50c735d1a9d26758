import QueryLayer.Proofs.Reading.Clause

/-!
# Reading operands

Where a statement writes a value, a server reads an operand: the content of a string literal, or
a word of its language, which is a numeral, a truth value or `NULL`. A value that is written as
one operand is read back as that operand. MySQL alone has values that are not: there an array is
a list of operands.
-/
namespace QueryLayer
open Reading
open Json (Value)

/-- What a server takes for a value. -/
inductive Operand where
  /-- The content of a string literal. -/
  | text (content : String)
  /-- A numeral, a truth value or `NULL`, as it is written. -/
  | word (token : String)
  deriving Repr, DecidableEq

/-- Whether a value is an array. -/
def Json.Value.isArray : Value → Bool
  | .array _ => true
  | _ => false

/-- What a server of a dialect is to take a value for. Strings stand for themselves and compound
values for their JSON text, as the contents of literals; all else is a word. -/
def Json.Value.operand (dialect : Dialect) : Value → Operand
  | .null => .word "NULL"
  | .bool b => .word (dialect.truth b)
  | .number n => .word n.text
  | .string s => .text s
  | .array items => .text (Value.array items).text
  | .object members => .text (Value.object members).text

/-- A value that a dialect writes as one operand. -/
def Json.Value.IsSingle (dialect : Dialect) (v : Value) : Prop :=
  dialect = .mysql → v.isArray = false

namespace Operand

/-- An operand: a literal if there is one, else a numeral, else a run of letters. -/
def read? (dialect : Dialect) : Reader Operand := fun cs =>
  match Literal.read? dialect cs with
  | some (content, cs) => some (text content, cs)
  | none =>
    match Numeral.read? cs with
    | some (n, cs) => some (word (String.ofList n.chars), cs)
    | none => (run? Char.isAlpha cs).map fun found => (word (String.ofList found.1), found.2)

/-- What an operand cannot be followed by, since it would go on. -/
def goesOn (c : Char) : Bool := Clause.goesOn c || c.isAlpha

variable (dialect : Dialect) {rest : List Char}

/-- Letters come after the digits. -/
theorem isDigit_of_isAlpha {c : Char} (h : c.isAlpha = true) : c.isDigit = false := by
  rw [Bool.eq_false_iff]
  intro hdigit
  have hnine : c.toNat ≤ '9'.toNat := of_decide_eq_true (Bool.and_eq_true_iff.1 hdigit).2
  have hletter : 'A'.toNat ≤ c.toNat := by
    rcases Bool.or_eq_true_iff.1 h with hupper | hlower
    · have hA : c.val ≥ 'A'.val ∧ c.val ≤ 'Z'.val := of_decide_eq_true hupper
      exact hA.1
    · have ha : 'a'.toNat ≤ c.toNat := of_decide_eq_true (Bool.and_eq_true_iff.1 hlower).1
      exact Nat.le_trans (by decide) ha
  exact absurd (hletter.trans hnine) (by decide)

/-- A word of letters is read back. None begins like the mark of a literal. -/
theorem read?_letters {letters : List Char} (hne : letters ≠ [])
    (hletters : ∀ c ∈ letters, c.isAlpha = true) (hmark : letters.head? ≠ some 'E')
    (hrest : opens goesOn rest = false) :
    read? dialect (letters ++ rest) = some (word (String.ofList letters), rest) := by
  have hrun := run?_append hne hletters (opens_mono (by simp_all [goesOn]) hrest)
  obtain ⟨c, cs, rfl⟩ := List.exists_cons_of_ne_nil hne
  have hc : c.isAlpha = true := hletters c List.mem_cons_self
  have hblank : c ≠ ' ' := by rintro rfl; exact absurd hc (by decide)
  have hquote : c ≠ '\'' := by rintro rfl; exact absurd hc (by decide)
  have hminus : c ≠ '-' := by rintro rfl; exact absurd hc (by decide)
  have hE : c ≠ 'E' := by simpa using hmark
  have hdigit : c.isDigit = false := isDigit_of_isAlpha hc
  have hliteral : Literal.read? dialect (c :: cs ++ rest) = none := by
    simp [Literal.read?, hblank, hquote, hE]
  have hnumeral : Numeral.read? (c :: cs ++ rest) = none := by
    simp [Numeral.read?, Numeral.readSign, DigitRun.read?, hminus, hdigit]
  rw [read?, hliteral]
  simp only [hnumeral, hrun]
  rfl

/-- The content of a literal is read back. -/
theorem read?_text (s : String) (hrest : opens goesOn rest = false) :
    read? dialect ((dialect.text s).toList ++ rest) = some (text s, rest) := by
  have hquote := Clause.head?_ne_quote (opens_mono (by simp_all [goesOn]) hrest)
  rw [read?, Literal.read?_text dialect s hquote]

/-- A numeral is read back. -/
theorem read?_number (number : Json.Number) (hrest : opens goesOn rest = false) :
    read? dialect (number.text.toList ++ rest) = some (word number.text, rest) := by
  obtain ⟨n, hn⟩ := number.exists_numeral
  have hread := n.read?_chars (opens_mono (by simp_all [goesOn, Clause.goesOn]) hrest)
  rw [hn, read?, Clause.literal_read?_numeral]
  simp only [hread]
  simp [← hn]

/-- A value is read back as its operand from where its literal was written. -/
theorem read?_literal {v : Value} (hv : v.IsSingle dialect) (hrest : opens goesOn rest = false) :
    read? dialect ((dialect.literal v).toList ++ rest) = some (v.operand dialect, rest) := by
  cases v with
  | null =>
    rw [Dialect.literal_null]
    exact read?_letters dialect (by simp) (List.all_eq_true.1 rfl) (by simp) hrest
  | bool b =>
    have hword : dialect.literal (.bool b) = dialect.truth b := by rw [Dialect.literal]
    rw [hword]
    cases dialect <;> cases b <;>
      exact read?_letters _ (by simp [Dialect.truth]) (List.all_eq_true.1 rfl)
        (by simp [Dialect.truth]) hrest
  | number n =>
    rw [Dialect.literal_number]
    exact read?_number dialect n hrest
  | string s =>
    rw [Dialect.literal_string]
    exact read?_text dialect s hrest
  | array items =>
    cases dialect with
    | mysql => cases hv rfl
    | postgres =>
      rw [Dialect.literal]
      exact read?_text .postgres _ hrest
  | object members =>
    rw [Dialect.literal]
    exact read?_text dialect _ hrest

end Operand
end QueryLayer
