import QueryLayer.Proofs.Reading.Literal
import QueryLayer.Proofs.Reading.Name

/-!
# Tokens

Before a server reads a statement it takes it apart into tokens: string literals and quoted names,
each as a whole, runs of word characters, and other characters one by one. Blanks between them are
dropped. Where a token has come to its end before a text is over, whatever follows the text leaves it
as it is, so a text that ends in a blank has the same tokens in front of any other.
-/
namespace QueryLayer
open Reading Identifier

/-- What a server does not take apart any further. -/
inductive Token where
  /-- A run of word characters. -/
  | word (s : String)
  /-- A name between quotes. -/
  | quoted (name : String)
  /-- A string literal. -/
  | literal (s : String)
  /-- Any other character. -/
  | sign (c : Char)
  deriving Repr, DecidableEq

/-! ## Readers that come to an end -/

namespace Reading
variable {α β : Type}

/-- A reader that has come to its end before a text is over reads the same in front of any other
text. -/
def Settles (part : Reader α) : Prop := ∀ {cs rest : List Char} {a : α},
  part cs = some (a, rest) → rest ≠ [] → ∀ more, part (cs ++ more) = some (a, rest ++ more)

/-- What is made of a part is found again when the part is. -/
theorem map_append_of (f : α → β) {found found' : Option (α × List Char)} {rest more : List Char}
    {b : β} (h : (found.map fun part => (f part.1, part.2)) = some (b, rest))
    (happend : ∀ a, found = some (a, rest) → found' = some (a, rest ++ more)) :
    (found'.map fun part => (f part.1, part.2)) = some (b, rest ++ more) := by
  obtain ⟨⟨a, rest'⟩, rfl, hb⟩ := Option.map_eq_some_iff.1 h
  obtain ⟨rfl, rfl⟩ := Prod.mk.inj hb
  rw [happend a rfl, Option.map_some]

theorem settles_run? (p : Char → Bool) : Settles (run? p) := by
  intro cs rest run hread hrest more
  unfold run? at hread ⊢
  split at hread
  · next hopens =>
    obtain ⟨rfl, rfl⟩ := Prod.mk.inj (Option.some.inj hread)
    have hopens' : opens p (cs ++ more) = true := by
      cases cs with
      | nil => cases hopens
      | cons c cs => exact hopens
    have hall : ¬ (cs.takeWhile p).length = cs.length := by
      intro hlength
      have := congrArg List.length (List.takeWhile_append_dropWhile (p := p) (l := cs))
      rw [List.length_append] at this
      exact hrest (List.eq_nil_of_length_eq_zero (by omega))
    rw [if_pos hopens', List.takeWhile_append, if_neg hall, List.dropWhile_append,
      if_neg (by simpa using hrest)]
  · cases hread

end Reading

theorem Identifier.settles_readQuoted? (quote : Char) : Settles (readQuoted? quote) := by
  intro cs rest name hread hrest more
  fun_induction readQuoted? quote cs generalizing name with
  | case1 => cases hread
  | case2 => exact absurd (Prod.mk.inj (Option.some.inj hread)).2.symm hrest
  | case3 => cases hread
  | case4 c d cs hc ih =>
    rw [List.cons_append, readQuoted?_cons_of_ne hc]
    exact map_append_of _ hread fun _ => ih
  | case5 c cs hc ih =>
    rw [List.cons_append, List.cons_append, readQuoted?, if_neg hc, if_pos rfl]
    exact map_append_of _ hread fun _ => ih
  | case6 c d cs hc hd =>
    obtain ⟨rfl, rfl⟩ := Prod.mk.inj (Option.some.inj hread)
    rw [List.cons_append, List.cons_append, readQuoted?, if_neg hc, if_neg hd]

theorem Literal.settles_readBody? (unescape : Option (Char → Option Char)) :
    Settles (Literal.readBody? unescape) := by
  intro cs rest body hread hrest more
  fun_induction Literal.readBody? unescape cs generalizing body with
  | case1 => cases hread
  | case2 => exact absurd (Prod.mk.inj (Option.some.inj hread)).2.symm hrest
  | case3 => cases hread
  | case4 cs ih =>
    rw [List.cons_append, List.cons_append, readBody?_quotes]
    exact map_append_of _ hread fun _ => ih
  | case5 d cs hd =>
    obtain ⟨rfl, rfl⟩ := Prod.mk.inj (Option.some.inj hread)
    exact readBody?_closing (by simpa using hd)
  | case6 c d cs hc hnone ih =>
    subst hnone
    rw [List.cons_append, readBody?_plain hc (.inl rfl)]
    exact map_append_of _ hread fun _ => ih
  | case7 d cs meaning hmeaning hquote ih =>
    subst hmeaning
    obtain ⟨c, hescaped, hbody⟩ := Option.bind_eq_some_iff.1 hread
    rw [List.cons_append, List.cons_append, readBody?_escape hescaped]
    exact map_append_of _ hbody fun _ => ih
  | case8 c d cs hc meaning hmeaning hslash ih =>
    subst hmeaning
    rw [List.cons_append, readBody?_plain hc (.inr hslash)]
    exact map_append_of _ hread fun _ => ih

/-! ## Taking a text apart -/

namespace Token

/-- Whether a literal begins here: with its quote, for a PostgreSQL server also with an `E` before
it. -/
def opensLiteral (dialect : Dialect) : List Char → Bool
  | '\'' :: _ => true
  | 'E' :: '\'' :: _ => dialect = .postgres
  | _ => false

/-- The token at the front of a text that does not begin with a blank. -/
def next? (dialect : Dialect) : Reader Token
  | [] => none
  | c :: cs =>
    if c = dialect.quote then
      (readQuoted? dialect.quote cs).map fun found => (quoted (String.ofList found.1), found.2)
    else if opensLiteral dialect (c :: cs) then
      (Literal.read? dialect (c :: cs)).map fun found => (literal found.1, found.2)
    else if isWordChar c then
      (run? isWordChar (c :: cs)).map fun found => (word (String.ofList found.1), found.2)
    else some (sign c, cs)

/-- All tokens of a text. -/
def readAll? (dialect : Dialect) (cs : List Char) : Option (List Token) :=
  match cs with
  | [] => some []
  | c :: cs =>
    if c = ' ' then readAll? dialect cs
    else match next? dialect (c :: cs) with
      | none => none
      | some (token, rest) =>
        if rest.length < (c :: cs).length then (readAll? dialect rest).map (token :: ·) else none
termination_by cs.length
decreasing_by
  · exact Nat.lt_succ_self _
  · assumption

/-- The tokens of a text in which every token has come to its end before the text is over. -/
def readSettled? (dialect : Dialect) (cs : List Char) : Option (List Token) :=
  match cs with
  | [] => some []
  | c :: cs =>
    if c = ' ' then readSettled? dialect cs
    else match next? dialect (c :: cs) with
      | some (token, d :: rest) =>
        if rest.length < cs.length then (readSettled? dialect (d :: rest)).map (token :: ·) else none
      | _ => none
termination_by cs.length
decreasing_by
  · exact Nat.lt_succ_self _
  · exact Nat.succ_lt_succ ‹_›

variable (dialect : Dialect)

theorem next?_cons (c : Char) (cs : List Char) : next? dialect (c :: cs) =
    if c = dialect.quote then
      (readQuoted? dialect.quote cs).map fun found => (quoted (String.ofList found.1), found.2)
    else if opensLiteral dialect (c :: cs) then
      (Literal.read? dialect (c :: cs)).map fun found => (literal found.1, found.2)
    else if isWordChar c then
      (run? isWordChar (c :: cs)).map fun found => (word (String.ofList found.1), found.2)
    else some (sign c, cs) := rfl

/-- What follows a text leaves the literal at its front as it is. -/
theorem read?_append_of_opensLiteral {cs rest : List Char} {s : String}
    (hopens : opensLiteral dialect cs = true) (hread : Literal.read? dialect cs = some (s, rest))
    (hrest : rest ≠ []) (more : List Char) :
    Literal.read? dialect (cs ++ more) = some (s, rest ++ more) := by
  have hbody {unescape : Option (Char → Option Char)} {cs : List Char}
      (h : ((Literal.readBody? unescape cs).map fun found => (String.ofList found.1, found.2)) =
        some (s, rest)) :
      ((Literal.readBody? unescape (cs ++ more)).map fun found =>
        (String.ofList found.1, found.2)) = some (s, rest ++ more) :=
    map_append_of _ h fun _ ha => Literal.settles_readBody? unescape ha hrest more
  unfold opensLiteral at hopens
  split at hopens
  · cases dialect <;> exact hbody hread
  · obtain rfl := of_decide_eq_true hopens
    exact hbody hread
  · cases hopens

theorem opensLiteral_append (c d : Char) (cs more : List Char) :
    opensLiteral dialect (c :: d :: (cs ++ more)) = opensLiteral dialect (c :: d :: cs) := by
  unfold opensLiteral
  split <;> simp_all

/-- A character alone is at most a token of its own. -/
theorem eq_nil_of_next?_singleton {c : Char} {token : Token} {rest : List Char}
    (h : next? dialect [c] = some (token, rest)) : rest = [] := by
  rw [next?_cons] at h
  split_ifs at h with hquote hliteral hword
  · cases h
  · unfold opensLiteral at hliteral
    split at hliteral
    · next heq =>
      obtain ⟨rfl, rfl⟩ := List.cons.inj heq
      cases dialect <;> cases h
    · next heq => cases heq
    · cases hliteral
  · have hrun : run? isWordChar [c] = some ([c], []) := by
      simp [run?, hword]
    rw [hrun] at h
    exact (Prod.mk.inj (Option.some.inj h)).2.symm
  · exact (Prod.mk.inj (Option.some.inj h)).2.symm

theorem settles_next? : Settles (next? dialect) := by
  intro cs rest token hread hrest more
  cases cs with
  | nil => cases hread
  | cons c cs =>
    cases cs with
    | nil => exact absurd (eq_nil_of_next?_singleton dialect hread) hrest
    | cons d cs =>
      -- Two characters decide which kind of token begins here.
      rw [List.cons_append, List.cons_append, next?_cons, opensLiteral_append]
      rw [next?_cons] at hread
      split_ifs at hread ⊢ with hquote hliteral hword
      · exact map_append_of (fun name => quoted (String.ofList name)) hread fun _ ha =>
          settles_readQuoted? _ ha hrest more
      · exact map_append_of _ hread fun _ ha =>
          read?_append_of_opensLiteral dialect hliteral ha hrest more
      · exact map_append_of (fun run => word (String.ofList run)) hread fun _ ha =>
          settles_run? _ ha hrest more
      · obtain ⟨rfl, rfl⟩ := Prod.mk.inj (Option.some.inj hread)
        rfl

theorem readAll?_blank (cs : List Char) : readAll? dialect (' ' :: cs) = readAll? dialect cs := by
  rw [readAll?, if_pos rfl]

theorem readAll?_of_next? {c : Char} {cs rest : List Char} {token : Token} (hblank : c ≠ ' ')
    (hnext : next? dialect (c :: cs) = some (token, rest))
    (hlength : rest.length < (c :: cs).length) :
    readAll? dialect (c :: cs) = (readAll? dialect rest).map (token :: ·) := by
  rw [readAll?, if_neg hblank]
  simp only [hnext, if_pos hlength]

/-- A text whose tokens have come to their end has them in front of any other text. -/
theorem readAll?_append {cs : List Char} {tokens : List Token}
    (h : readSettled? dialect cs = some tokens) (rest : List Char) :
    readAll? dialect (cs ++ rest) = (readAll? dialect rest).map (tokens ++ ·) := by
  fun_induction readSettled? dialect cs generalizing tokens with
  | case1 =>
    obtain rfl := Option.some.inj h
    simp
  | case2 cs ih =>
    rw [List.cons_append, readAll?_blank]
    exact ih h
  | case3 c cs hblank token d rest' hnext hlength ih =>
    obtain ⟨tokens', htokens', rfl⟩ := Option.map_eq_some_iff.1 h
    have hfound := settles_next? dialect hnext (List.cons_ne_nil d rest') rest
    have hshort : (d :: rest' ++ rest).length < (c :: cs ++ rest).length := by
      simp only [List.length_append, List.length_cons]
      omega
    rw [List.cons_append] at hfound ⊢
    rw [readAll?_of_next? dialect hblank hfound hshort, ih htokens', Option.map_map]
    rfl
  | case4 => cases h
  | case5 => cases h

/-! ## Names and literals -/

/-- A blank would be a token like any other sign. -/
theorem next?_blank (cs : List Char) : next? dialect (' ' :: cs) = some (sign ' ', cs) := by
  cases dialect <;> rfl

/-- What a text is read as wherever a blank or the end comes after it. -/
def Gives (cs : List Char) (tokens : List Token) : Prop := ∀ rest, Spaced rest →
  readAll? dialect (cs ++ rest) = (readAll? dialect rest).map (tokens ++ ·)

namespace Gives
variable {dialect} {cs : List Char} {tokens : List Token}

/-- What a blank settles is given. -/
theorem of_settled (hend : readAll? dialect cs = some tokens)
    (hblank : readSettled? dialect (cs ++ [' ']) = some tokens) : Gives dialect cs tokens := by
  intro rest hrest
  cases rest with
  | nil =>
    rw [List.append_nil, hend, readAll?]
    simp
  | cons d rest =>
    obtain rfl : d = ' ' := hrest d rfl
    rw [readAll?_blank, List.append_cons]
    exact readAll?_append dialect hblank rest

/-- A blank in front makes no token. -/
theorem blank (h : Gives dialect cs tokens) : Gives dialect (' ' :: cs) tokens := by
  intro rest hrest
  rw [List.cons_append, readAll?_blank]
  exact h rest hrest

/-- A text that is always one token gives that token. -/
theorem of_next? {token : Token} (hblank : token ≠ sign ' ')
    (hnext : ∀ rest, Spaced rest → next? dialect (cs ++ rest) = some (token, rest)) :
    Gives dialect cs [token] := by
  intro rest hrest
  have hfound := hnext rest hrest
  cases cs with
  | nil => cases hnext [] .nil
  | cons c cs =>
    have hc : c ≠ ' ' := by
      rintro rfl
      rw [List.cons_append, next?_blank] at hfound
      exact hblank (Prod.mk.inj (Option.some.inj hfound)).1.symm
    have hlength : rest.length < (c :: cs ++ rest).length := by
      simp only [List.length_append, List.length_cons]
      omega
    exact readAll?_of_next? dialect hc hfound hlength

end Gives

/-- A literal begins with a quote or with a character before one. -/
theorem mem_take_of_opensLiteral {cs : List Char} (h : opensLiteral dialect cs = true) :
    '\'' ∈ cs.take 2 := by
  unfold opensLiteral at h
  split at h
  · simp
  · simp
  · cases h

/-- No literal begins with a bare name, not even with the one that is a mark of literals. -/
theorem opensLiteral_of_isWordChar {run rest : List Char} (hne : run ≠ [])
    (hrun : ∀ c ∈ run, isWordChar c = true) (hrest : Spaced rest) :
    opensLiteral dialect (run ++ rest) = false := by
  rw [Bool.eq_false_iff]
  intro hopens
  have hmem := mem_take_of_opensLiteral dialect hopens
  have hlength := List.length_pos_iff.2 hne
  rw [List.take_append, List.mem_append] at hmem
  rcases hmem with hmem | hmem
  · exact absurd (hrun _ (List.mem_of_mem_take hmem)) (by decide)
  · cases rest with
    | nil => simp at hmem
    | cons c rest =>
      obtain rfl : c = ' ' := hrest c rfl
      have hone : '\'' ∈ (' ' :: rest).take 1 :=
        (List.take_subset_take_left _ (by omega : 2 - run.length ≤ 1)) hmem
      simp at hone

/-- The token of a name. -/
def ofName (name : String) : Token := if isBare name then word name else quoted name

theorem next?_quoted (name : String) {rest : List Char} (hrest : Spaced rest) :
    next? dialect ((Identifier.quoted dialect.quote name).toList ++ rest) =
      some (quoted name, rest) := by
  have hclosed : rest.head? ≠ some dialect.quote := by
    intro hquote
    have hblank : dialect.quote = ' ' := hrest _ hquote
    cases dialect <;> exact absurd hblank (by decide)
  rw [Identifier.quoted, String.toList_ofList, List.cons_append, next?_cons, if_pos rfl,
    List.append_assoc, List.singleton_append, readQuoted?_doubled _ _ hclosed]
  simp

theorem next?_word {run rest : List Char} (hne : run ≠ []) (hrun : ∀ c ∈ run, isWordChar c = true)
    (hrest : Spaced rest) : next? dialect (run ++ rest) = some (word (String.ofList run), rest) := by
  have hliteral := opensLiteral_of_isWordChar dialect hne hrun hrest
  have hfound := run?_append hne hrun (hrest.opens (p := isWordChar) (by decide))
  obtain ⟨c, cs, rfl⟩ := List.exists_cons_of_ne_nil hne
  have hc : isWordChar c = true := hrun c List.mem_cons_self
  have hquote : c ≠ dialect.quote := by
    rintro rfl
    cases dialect <;> exact absurd hc (by decide)
  rw [List.cons_append] at hliteral hfound ⊢
  rw [next?_cons, if_neg hquote, if_neg (by simp [hliteral]), if_pos hc, hfound]
  rfl

/-- A name is the token at the front of a text where it is written. -/
theorem next?_name (name : String) {rest : List Char} (hrest : Spaced rest) :
    next? dialect ((render dialect.quote name).toList ++ rest) = some (ofName name, rest) := by
  cases hbare : isBare name with
  | false =>
    rw [render_of_not_isBare hbare, ofName, hbare]
    exact next?_quoted dialect name hrest
  | true =>
    obtain ⟨hname, hword⟩ : name ≠ "" ∧ ∀ c ∈ name.toList, isWordChar c = true := by
      simpa [isBare] using hbare
    have hfound := next?_word dialect (by simpa using hname) hword hrest
    rwa [render_of_isBare hbare, ofName, if_pos hbare, ← @String.ofList_toList name,
      String.toList_ofList]

theorem gives_name (name : String) :
    Gives dialect (render dialect.quote name).toList [ofName name] := by
  refine .of_next? ?_ fun rest hrest => next?_name dialect name hrest
  unfold ofName
  split <;> simp

/-- Where a literal opens, after a blank if there is one. -/
theorem exists_opensLiteral_text (s : String) : ∃ c cs, c ≠ dialect.quote ∧
    (∀ rest, opensLiteral dialect (c :: cs ++ rest) = true) ∧
      ((dialect.text s).toList = c :: cs ∨ (dialect.text s).toList = ' ' :: c :: cs) := by
  cases dialect with
  | mysql =>
    rw [Dialect.text, Literal.mysql, String.toList_ofList]
    exact ⟨'\'', _, by decide, fun _ => rfl, .inl rfl⟩
  | postgres =>
    rw [Dialect.text, Literal.postgres, String.toList_ofList]
    by_cases hslash : '\\' ∈ s.toList
    · rw [if_pos hslash]
      exact ⟨'E', _, by decide, fun _ => rfl, .inr rfl⟩
    · rw [if_neg hslash]
      exact ⟨'\'', _, by decide, fun _ => rfl, .inl rfl⟩

/-- A literal is a token of its own. -/
theorem gives_text (s : String) : Gives dialect (dialect.text s).toList [literal s] := by
  obtain ⟨c, cs, hquote, hopens, htext⟩ := exists_opensLiteral_text dialect s
  have hgives : Gives dialect (c :: cs) [literal s] := by
    refine .of_next? (by simp) fun rest hrest => ?_
    have hclosed : rest.head? ≠ some '\'' := fun h => absurd (hrest _ h) (by decide)
    have hread : Literal.read? dialect (c :: cs ++ rest) = some (s, rest) := by
      rw [← Literal.read?_text dialect s hclosed]
      rcases htext with htext | htext
      · rw [htext]
      · rw [htext]
        rfl
    have hopen := hopens rest
    rw [List.cons_append] at hread hopen ⊢
    rw [next?_cons, if_neg hquote, if_pos hopen, hread]
    rfl
  rcases htext with htext | htext
  · rwa [htext]
  · rw [htext]
    exact hgives.blank

/-- A text that has come to its end, then an operand, then the rest: each is read by itself. -/
theorem readAll?_operand {opening operand rest : List Char} {before tokens : List Token}
    (hopening : readSettled? dialect opening = some before) (hoperand : Gives dialect operand tokens)
    (hrest : Spaced rest) : readAll? dialect (opening ++ operand ++ rest) =
      (readAll? dialect rest).map (before ++ tokens ++ ·) := by
  rw [List.append_assoc, readAll?_append dialect hopening, hoperand rest hrest, Option.map_map]
  simp only [Function.comp_def, List.append_assoc]

example : readAll? .mysql "SHOW INDEX FROM `a'b` LIKE 'c'".toList =
    some [word "SHOW", word "INDEX", word "FROM", quoted "a'b", word "LIKE", literal "c"] := by
  decide +kernel

end Token
end QueryLayer
