import Mathlib.Tactic.SplitIfs
import QueryLayer.Dialect
import QueryLayer.Proofs.Reading.Front

/-!
# Reading string literals

A server ends a literal at the first quote that is neither doubled nor escaped. A MySQL server
takes backslashes for escapes in every literal; a PostgreSQL server does so only after an `E`
and takes them as they are elsewhere. Whatever a string holds, its literal is read back as that
string, and the reading stops where the literal was written to its end.
-/
namespace QueryLayer.Literal
open Reading

/-- The inside of a literal up to its closing quote, for a server that has a meaning for escaped
characters, or none for backslashes at all. -/
def readBody? (unescape : Option (Char → Option Char)) : Reader (List Char)
  | [] => none
  | [c] => if c = '\'' then some ([], []) else none
  | c :: d :: cs =>
    if c = '\'' then
      if d = '\'' then (readBody? unescape cs).map fun found => ('\'' :: found.1, found.2)
      else some ([], d :: cs)
    else
      match unescape with
      | none => (readBody? unescape (d :: cs)).map fun found => (c :: found.1, found.2)
      | some meaning =>
        if c = '\\' then do
          let escaped ← meaning d
          (readBody? unescape cs).map fun found => (escaped :: found.1, found.2)
        else (readBody? unescape (d :: cs)).map fun found => (c :: found.1, found.2)

/-- What an escaped character means to a MySQL server. -/
def mysqlMeaning (c : Char) : Option Char :=
  if c = '0' then some '\x00'
  else if c = 'b' then some '\x08'
  else if c = 't' then some '\t'
  else if c = 'n' then some '\n'
  else if c = 'r' then some '\r'
  else if c = 'Z' then some '\x1a'
  else some c

/-- What an escaped character means to a PostgreSQL server. The escapes that write a character
by its number are not read. -/
def postgresMeaning (c : Char) : Option Char :=
  if c = 'b' then some '\x08'
  else if c = 'f' then some '\x0c'
  else if c = 'n' then some '\n'
  else if c = 'r' then some '\r'
  else if c = 't' then some '\t'
  else if c.isDigit ∨ c = 'x' ∨ c = 'u' ∨ c = 'U' then none
  else some c

/-- A literal as a server of a dialect reads it, after any blanks. -/
def read? (dialect : Dialect) : Reader String
  | ' ' :: cs => read? dialect cs
  | '\'' :: cs =>
    match dialect with
    | .mysql => (readBody? (some mysqlMeaning) cs).map fun found => (String.ofList found.1, found.2)
    | .postgres => (readBody? none cs).map fun found => (String.ofList found.1, found.2)
  | 'E' :: '\'' :: cs =>
    match dialect with
    | .mysql => none
    | .postgres =>
      (readBody? (some postgresMeaning) cs).map fun found => (String.ofList found.1, found.2)
  | _ => none

variable {unescape : Option (Char → Option Char)} {meaning : Char → Option Char}

theorem readBody?_quotes (cs : List Char) :
    readBody? unescape ('\'' :: '\'' :: cs) =
      (readBody? unescape cs).map fun found => ('\'' :: found.1, found.2) := by
  simp [readBody?]

theorem readBody?_escape {c d : Char} (h : meaning d = some c) (cs : List Char) :
    readBody? (some meaning) ('\\' :: d :: cs) =
      (readBody? (some meaning) cs).map fun found => (c :: found.1, found.2) := by
  simp [readBody?, h]

/-- A character is read as it stands unless it is a quote, or a backslash where those escape. -/
theorem readBody?_plain {c : Char} (hquote : c ≠ '\'') (hescape : unescape = none ∨ c ≠ '\\')
    (cs : List Char) :
    readBody? unescape (c :: cs) =
      (readBody? unescape cs).map fun found => (c :: found.1, found.2) := by
  cases cs with
  | nil => simp [readBody?, hquote]
  | cons d cs =>
    cases unescape with
    | none => rw [readBody?, if_neg hquote]
    | some meaning =>
      have hslash : c ≠ '\\' := hescape.resolve_left (by simp)
      rw [readBody?, if_neg hquote, if_neg hslash]

/-- An encoding that is read back character by character comes back before what is read after
it. -/
theorem readBody?_flatMap {encode : Char → List Char} {s : List Char}
    (hencode : ∀ c ∈ s, ∀ cs, readBody? unescape (encode c ++ cs) =
      (readBody? unescape cs).map fun found => (c :: found.1, found.2)) (cs : List Char) :
    readBody? unescape (s.flatMap encode ++ cs) =
      (readBody? unescape cs).map fun found => (s ++ found.1, found.2) := by
  induction s with
  | nil => simp
  | cons c s ih =>
    rw [List.flatMap_cons, List.append_assoc, hencode c List.mem_cons_self,
      ih fun d hd => hencode d (List.mem_cons_of_mem c hd), Option.map_map]
    rfl

/-- A quote ends a literal unless a second one goes on with it. -/
theorem readBody?_closing {rest : List Char} (hrest : rest.head? ≠ some '\'') :
    readBody? unescape ('\'' :: rest) = some ([], rest) := by
  cases rest with
  | nil => simp [readBody?]
  | cons d rest => simp_all [readBody?]

theorem readBody?_mysqlEscaped (c : Char) (cs : List Char) :
    readBody? (some mysqlMeaning) (mysqlEscaped c ++ cs) =
      (readBody? (some mysqlMeaning) cs).map fun found => (c :: found.1, found.2) := by
  rw [mysqlEscaped]
  split_ifs with hnul hback htab hline hreturn hsub hself
  -- The six controls have a letter each; the three marks that follow escape themselves.
  all_goals try (subst c; exact readBody?_escape (by decide) cs)
  · rcases hself with rfl | rfl | rfl <;> exact readBody?_escape (by decide) cs
  · obtain ⟨-, hquote, hslash⟩ : c ≠ '"' ∧ c ≠ '\'' ∧ c ≠ '\\' := by simpa using hself
    exact readBody?_plain hquote (.inr hslash) cs

theorem readBody?_postgresEscaped (c : Char) (cs : List Char) :
    readBody? (some postgresMeaning) (postgresEscaped c ++ cs) =
      (readBody? (some postgresMeaning) cs).map fun found => (c :: found.1, found.2) := by
  rw [postgresEscaped]
  split_ifs with h
  · rcases h with rfl | rfl
    · exact readBody?_quotes cs
    · exact readBody?_escape (by decide) cs
  · obtain ⟨hquote, hslash⟩ := not_or.1 h
    exact readBody?_plain hquote (.inr hslash) cs

/-- Without an `E`, and without backslashes, only quotes are doubled. -/
theorem readBody?_postgresEscaped_of_ne {c : Char} (h : c ≠ '\\') (cs : List Char) :
    readBody? none (postgresEscaped c ++ cs) =
      (readBody? none cs).map fun found => (c :: found.1, found.2) := by
  rw [postgresEscaped]
  split_ifs with hc
  · obtain rfl := hc.resolve_right h
    exact readBody?_quotes cs
  · exact readBody?_plain (not_or.1 hc).1 (.inl rfl) cs

/-- A literal opens as the server expects, and then each character of the string is read back up
to the closing quote, whatever comes after that. -/
theorem exists_read?_text (dialect : Dialect) (s : String) :
    ∃ unescape, ∀ rest, read? dialect ((dialect.text s).toList ++ rest) =
      (readBody? unescape ('\'' :: rest)).map fun found =>
        (String.ofList (s.toList ++ found.1), found.2) := by
  cases dialect with
  | mysql =>
    refine ⟨some mysqlMeaning, fun rest => ?_⟩
    have hbody := readBody?_flatMap (s := s.toList) (fun c _ => readBody?_mysqlEscaped c)
      ('\'' :: rest)
    simp [Dialect.text, mysql, read?, hbody, Function.comp_def]
  | postgres =>
    by_cases hslash : '\\' ∈ s.toList
    · refine ⟨some postgresMeaning, fun rest => ?_⟩
      have hbody := readBody?_flatMap (s := s.toList) (fun c _ => readBody?_postgresEscaped c)
        ('\'' :: rest)
      simp [Dialect.text, postgres, read?, hslash, hbody, Function.comp_def]
    · refine ⟨none, fun rest => ?_⟩
      have hbody := readBody?_flatMap (s := s.toList)
        (fun c hc => readBody?_postgresEscaped_of_ne fun h => hslash (h ▸ hc)) ('\'' :: rest)
      simp [Dialect.text, postgres, read?, hslash, hbody, Function.comp_def]

/-- A string is read back from its literal, and the reading stops at the end of the literal. -/
theorem read?_text (dialect : Dialect) (s : String) {rest : List Char}
    (hrest : rest.head? ≠ some '\'') :
    read? dialect ((dialect.text s).toList ++ rest) = some (s, rest) := by
  obtain ⟨unescape, hread⟩ := exists_read?_text dialect s
  rw [hread, readBody?_closing hrest]
  simp

/-- A quote right after a literal belongs to the literal, so that no reading ends before it. -/
theorem read?_text_quote_ne (dialect : Dialect) (s : String) (rest rest' : List Char) :
    read? dialect ((dialect.text s).toList ++ '\'' :: rest) ≠ some (s, rest') := by
  obtain ⟨unescape, hread⟩ := exists_read?_text dialect s
  rw [hread, readBody?_quotes, Option.map_map]
  intro h
  obtain ⟨found, -, hfound⟩ := Option.map_eq_some_iff.1 h
  have hlength := congrArg (fun found : String × List Char => found.1.toList.length) hfound
  simp at hlength

/-- What a server of a dialect makes of the literals of all strings. -/
structure Delimits (dialect : Dialect) : Prop where
  /-- A literal is read as its string, and to its end and no further, just where no quote follows
  it. -/
  read_iff : ∀ s rest, read? dialect ((dialect.text s).toList ++ rest) = some (s, rest) ↔
    rest.head? ≠ some '\''
  /-- No reading ends inside a literal. -/
  ends : ∀ s front back rest value, rest.head? ≠ some '\'' →
    (dialect.text s).toList = front ++ back →
      read? dialect (front ++ back ++ rest) = some (value, back ++ rest) → back = []
  /-- A text begins with one literal at most. -/
  unique : ∀ s t rest rest', rest.head? ≠ some '\'' → rest'.head? ≠ some '\'' →
    (dialect.text s).toList ++ rest = (dialect.text t).toList ++ rest' → s = t ∧ rest = rest'
  /-- Different strings have different literals. -/
  injective : Function.Injective dialect.text

/-- **Literals are read back.** Whatever characters a string has, a server of the dialect reads
its literal as that string and goes on right after the literal. -/
theorem delimits_text (dialect : Dialect) : Delimits dialect where
  read_iff s rest := by
    constructor
    · intro hread hquote
      obtain ⟨more, rfl⟩ := List.head?_eq_some_iff.1 hquote
      exact read?_text_quote_ne dialect s more _ hread
    · exact read?_text dialect s
  ends s front back rest value hrest hcut hread := by
    rw [← hcut, read?_text dialect s hrest] at hread
    have hback : rest = back ++ rest := congrArg Prod.snd (Option.some.inj hread)
    exact List.append_left_eq_self.1 hback.symm
  unique s t _ _ hrest hrest' heq :=
    eq_of_reader_append (read?_text dialect s hrest) (read?_text dialect t hrest') heq
  injective s t heq := by
    have hnil : ([] : List Char).head? ≠ some '\'' := by simp
    exact (eq_of_reader_append (read?_text dialect s hnil) (read?_text dialect t hnil)
      (by rw [heq])).1

end QueryLayer.Literal
