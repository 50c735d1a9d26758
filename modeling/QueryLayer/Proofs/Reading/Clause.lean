import QueryLayer.Proofs.Filter.Meaning
import QueryLayer.Proofs.Reading.Literal
import QueryLayer.Proofs.Reading.Name
import QueryLayer.Proofs.Reading.Number

/-!
# Reading flat predicates

A flat predicate is a list of clauses with ` AND ` between them. A clause names a column and
tests it: with a comparison, for membership in a list, between two bounds, or against a pattern.
The reader knows the grammar of the server and nothing of filters. What a condition was written
as is read back as the test it stands for.
-/
namespace QueryLayer
open Reading

/-- A clause of a predicate: a column and what is asked of it. -/
structure Clause where
  column : String
  test : Test
  deriving DecidableEq

namespace Clause

/-- The comparisons that are written with a sign of their own. -/
def comparisons : List Comparison := [.atLeast, .atMost, .different, .above, .below]

/-- What a column is equal to: a literal or a numeral. -/
def readEquality? (dialect : Dialect) : Reader Test := fun cs =>
  match Literal.read? dialect cs with
  | some (value, cs) => some (.equals value, cs)
  | none =>
    (Numeral.read? cs).map fun found => (.equalsNumeral (String.ofList found.1.chars), found.2)

/-- A test after its column: a word up to the next blank, then its operands. -/
def readTest? (dialect : Dialect) : Reader Test := fun cs => do
  let (word, cs) ← Text.cut? [' '] cs
  if word = ['='] then readEquality? dialect cs
  else if word = ['I', 'N'] then do
    let cs ← Text.rest? ['('] cs
    let (members, cs) ← list? [','] (Literal.read? dialect) cs
    let cs ← Text.rest? [')'] cs
    return (.oneOf members, cs)
  else if word = ['L', 'I', 'K', 'E'] then do
    let (pattern, cs) ← Literal.read? dialect cs
    return (.like pattern, cs)
  else do
    let comparison ← comparisons.find? fun c => c.sign.toList = word
    let (operand, cs) ← Literal.read? dialect cs
    return (.compares comparison operand, cs)

/-- A clause. One between bounds stands in parentheses. -/
def read? (dialect : Dialect) : Reader Clause
  | '(' :: cs => do
    let (column, cs) ← Identifier.read? dialect.quote cs
    let cs ← Text.rest? " BETWEEN ".toList cs
    let (low, cs) ← Literal.read? dialect cs
    let cs ← Text.rest? " AND ".toList cs
    let (high, cs) ← Literal.read? dialect cs
    let cs ← Text.rest? [')'] cs
    return (⟨column, .between low high⟩, cs)
  | cs => do
    let (column, cs) ← Identifier.read? dialect.quote cs
    let cs ← Text.rest? [' '] cs
    let (test, cs) ← readTest? dialect cs
    return (⟨column, test⟩, cs)

/-- The clauses of a whole predicate; an empty text has none. -/
def readAll? (dialect : Dialect) (predicate : String) : Option (List Clause) :=
  if predicate = "" then some []
  else
    match list? " AND ".toList (read? dialect) predicate.toList with
    | some (clauses, []) => some clauses
    | _ => none

/-- What a clause cannot be followed by, since its last operand would go on. -/
def goesOn (c : Char) : Bool := c = '\'' || Numeral.goesOn c

variable (dialect : Dialect) {rest : List Char}

theorem isWordChar_quote : Identifier.isWordChar dialect.quote = false := by
  cases dialect <;> decide

theorem head?_ne_quote (h : opens goesOn rest = false) : rest.head? ≠ some '\'' := by
  intro hhead
  simp [opens, hhead, goesOn] at h

/-- No literal begins with a minus sign or a digit. -/
theorem literal_read?_numeral (n : Numeral) : Literal.read? dialect (n.chars ++ rest) = none := by
  obtain ⟨c, cs, hcs⟩ := List.exists_cons_of_ne_nil n.whole.ne_nil
  have hdigit : c.isDigit = true := n.whole.isDigit c (hcs ▸ List.mem_cons_self)
  have hblank : c ≠ ' ' := by rintro rfl; exact absurd hdigit (by decide)
  have hquote : c ≠ '\'' := by rintro rfl; exact absurd hdigit (by decide)
  have hmark : c ≠ 'E' := by rintro rfl; exact absurd hdigit (by decide)
  cases hneg : n.negative with
  | true => simp [Numeral.chars, hneg, Literal.read?]
  | false => simp [Numeral.chars, Numeral.magnitude, hneg, hcs, Literal.read?, hblank, hquote, hmark]

theorem readEquality?_text (value : String) (hrest : opens goesOn rest = false) :
    readEquality? dialect ((dialect.text value).toList ++ rest) = some (.equals value, rest) := by
  rw [readEquality?, Literal.read?_text dialect value (head?_ne_quote hrest)]

theorem readEquality?_number (number : Json.Number) (hrest : opens goesOn rest = false) :
    readEquality? dialect (number.text.toList ++ rest) =
      some (.equalsNumeral number.text, rest) := by
  obtain ⟨n, hn⟩ := number.exists_numeral
  have hread := n.read?_chars (opens_mono (by simp_all [goesOn]) hrest)
  rw [hn, readEquality?, literal_read?_numeral, hread]
  simp [← hn]

/-- A column is read back before its test. -/
theorem read?_of_readTest? (column : String) {cs : List Char} {test : Test}
    (h : readTest? dialect cs = some (test, rest)) :
    read? dialect ((Identifier.render dialect.quote column).toList ++ ' ' :: cs) =
      some (⟨column, test⟩, rest) := by
  have hname : Identifier.read? dialect.quote
      ((Identifier.render dialect.quote column).toList ++ ' ' :: cs) = some (column, ' ' :: cs) :=
    Identifier.read?_render (isWordChar_quote dialect) column (by cases dialect <;> rfl)
  cases htext : (Identifier.render dialect.quote column).toList ++ ' ' :: cs with
  | nil => simp at htext
  | cons c text =>
    rw [htext] at hname
    have hc : c ≠ '(' := by
      rintro rfl
      cases dialect <;> cases hname
    have hblank : Text.rest? [' '] (' ' :: cs) = some cs := rest?_append [' '] cs
    rw [read?.eq_2 _ _ (by simpa using hc), hname]
    simp only [Option.bind_eq_bind, Option.bind_some, hblank, h]
    rfl

theorem readTest?_compares (c : Comparison) (operand : String) (hrest : opens goesOn rest = false) :
    readTest? dialect (c.sign.toList ++ ' ' :: ((dialect.text operand).toList ++ rest)) =
      some (.compares c operand, rest) := by
  have hread := Literal.read?_text dialect operand (head?_ne_quote hrest)
  have hblank : ' ' ∉ c.sign.toList := by cases c <;> decide
  have hequal : c.sign.toList ≠ ['='] := by cases c <;> decide
  have hin : c.sign.toList ≠ ['I', 'N'] := by cases c <;> decide
  have hlike : c.sign.toList ≠ ['L', 'I', 'K', 'E'] := by cases c <;> decide
  have hfind : comparisons.find? (fun d => d.sign.toList = c.sign.toList) = some c := by
    cases c <;> decide
  simp only [readTest?, Text.cut?_of_notMem hblank, Option.bind_eq_bind, Option.bind_some,
    if_neg hequal, if_neg hin, if_neg hlike, hfind, hread]
  rfl

theorem readTest?_oneOf {members : List String} (hne : members ≠ []) :
    readTest? dialect (['I', 'N'] ++ ' ' :: '(' ::
      ((",".intercalate (members.map dialect.text)).toList ++ ')' :: rest)) =
      some (.oneOf members, rest) := by
  have hmembers : list? [','] (Literal.read? dialect)
      ((",".intercalate (members.map dialect.text)).toList ++ ')' :: rest) =
      some (members, ')' :: rest) := by
    have hlist := @list?_joined _ _ "," (Literal.read? dialect) dialect.text id
      (fun cs => cs.head? ≠ some '\'') (by simp) (by simp) members hne
      (fun member _ _ => Literal.read?_text dialect member) (')' :: rest) (by simp) rfl
    rwa [List.map_id] at hlist
  have hblank : ' ' ∉ ['I', 'N'] := by decide
  have hopen : ∀ cs, Text.rest? ['('] ('(' :: cs) = some cs := rest?_append ['(']
  have hclose : ∀ cs, Text.rest? [')'] (')' :: cs) = some cs := rest?_append [')']
  simp only [readTest?, Text.cut?_of_notMem hblank, Option.bind_eq_bind, Option.bind_some,
    if_neg (show ['I', 'N'] ≠ ['='] by decide), if_true, hopen, hmembers, hclose]
  rfl

theorem readTest?_like (pattern : String) (hrest : opens goesOn rest = false) :
    readTest? dialect (['L', 'I', 'K', 'E'] ++ ' ' :: ((dialect.text pattern).toList ++ rest)) =
      some (.like pattern, rest) := by
  have hread := Literal.read?_text dialect pattern (head?_ne_quote hrest)
  have hblank : ' ' ∉ ['L', 'I', 'K', 'E'] := by decide
  simp only [readTest?, Text.cut?_of_notMem hblank, Option.bind_eq_bind, Option.bind_some,
    if_neg (show ['L', 'I', 'K', 'E'] ≠ ['='] by decide),
    if_neg (show ['L', 'I', 'K', 'E'] ≠ ['I', 'N'] by decide), if_true, hread]
  rfl

/-- An equality is left to the reading of what stands on its right. -/
theorem readTest?_equality (cs : List Char) :
    readTest? dialect (['='] ++ ' ' :: cs) = readEquality? dialect cs := by
  have hblank : ' ' ∉ ['='] := by decide
  simp only [readTest?, Text.cut?_of_notMem hblank, Option.bind_eq_bind, Option.bind_some, if_true]

theorem read?_between (column low high : String) :
    read? dialect ('(' :: ((Identifier.render dialect.quote column).toList ++
      (" BETWEEN ".toList ++ ((dialect.text low).toList ++ (" AND ".toList ++
        ((dialect.text high).toList ++ ')' :: rest)))))) =
      some (⟨column, .between low high⟩, rest) := by
  have hname (cs : List Char) : Identifier.read? dialect.quote
      ((Identifier.render dialect.quote column).toList ++ (" BETWEEN ".toList ++ cs)) =
        some (column, " BETWEEN ".toList ++ cs) :=
    Identifier.read?_render (isWordChar_quote dialect) column (by cases dialect <;> rfl)
  have hlow (cs : List Char) : Literal.read? dialect
      ((dialect.text low).toList ++ (" AND ".toList ++ cs)) = some (low, " AND ".toList ++ cs) :=
    Literal.read?_text dialect low (by simp)
  have hhigh : Literal.read? dialect ((dialect.text high).toList ++ ')' :: rest) =
      some (high, ')' :: rest) := Literal.read?_text dialect high (by simp)
  have hclose : Text.rest? [')'] (')' :: rest) = some rest := rest?_append [')'] rest
  simp only [read?, hname, hlow, hhigh, hclose, rest?_append, Option.bind_eq_bind,
    Option.bind_some]
  rfl

/-- What a condition is written as is read back as its test, at the end of a predicate or before
what cannot go on with it. -/
theorem read?_render (column : String) {condition : Condition} (hne : condition ≠ .oneOf [])
    (hrest : opens goesOn rest = false) :
    read? dialect ((condition.render (Identifier.render dialect.quote column)
      dialect.text).toList ++ rest) = some (⟨column, condition.test⟩, rest) := by
  cases condition with
  | equalsNumber n =>
    have hread := read?_of_readTest? dialect column
      ((readTest?_equality dialect (n.text.toList ++ rest)).trans (readEquality?_number dialect n hrest))
    simpa [Condition.render, Condition.test] using hread
  | compares c operand =>
    have hread := read?_of_readTest? dialect column (readTest?_compares dialect c operand hrest)
    simpa [Condition.render, Condition.test] using hread
  | oneOf members =>
    have hread := read?_of_readTest? dialect column
      (@readTest?_oneOf dialect rest members (by simpa using hne))
    simpa [Condition.render, Condition.test] using hread
  | between low high =>
    have hread := @read?_between dialect rest column low high
    simpa [Condition.render, Condition.test] using hread
  | like pattern =>
    have hread := read?_of_readTest? dialect column (readTest?_like dialect pattern hrest)
    simpa [Condition.render, Condition.test] using hread
  | equals value =>
    have hread := read?_of_readTest? dialect column
      ((readTest?_equality dialect ((dialect.text value).toList ++ rest)).trans
        (readEquality?_text dialect value hrest))
    simpa [Condition.render, Condition.test] using hread

end Clause
end QueryLayer
