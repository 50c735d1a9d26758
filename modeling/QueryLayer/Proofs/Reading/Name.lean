import QueryLayer.Identifier
import QueryLayer.Proofs.Reading.Front

/-!
# Reading names

A server takes a name off a statement in one of two ways. After a quote it reads up to the next
quote that stands alone, two quotes standing for one; elsewhere it reads the longest run of word
characters. A name that was written is read back, and nothing after it is lost.
-/
namespace QueryLayer.Identifier
open Reading

/-- The inside of a quoted name, up to the quote that ends it. -/
def readQuoted? (quote : Char) : Reader (List Char)
  | [] => none
  | [c] => if c = quote then some ([], []) else none
  | c :: d :: cs =>
    if c ≠ quote then (readQuoted? quote (d :: cs)).map fun found => (c :: found.1, found.2)
    else if d = quote then (readQuoted? quote cs).map fun found => (quote :: found.1, found.2)
    else some ([], d :: cs)

/-- A name, quoted or bare. -/
def read? (quote : Char) : Reader String
  | [] => none
  | c :: cs =>
    if c = quote then (readQuoted? quote cs).map fun found => (String.ofList found.1, found.2)
    else (run? isWordChar (c :: cs)).map fun found => (String.ofList found.1, found.2)

/-- What a name cannot be followed by, since it would be read as more of the name. -/
def goesOn (quote c : Char) : Bool := c = quote || isWordChar c

theorem readQuoted?_cons_of_ne {quote c : Char} (h : c ≠ quote) (cs : List Char) :
    readQuoted? quote (c :: cs) =
      (readQuoted? quote cs).map fun found => (c :: found.1, found.2) := by
  cases cs with
  | nil => simp [readQuoted?, h]
  | cons d cs => rw [readQuoted?, if_pos h]

theorem readQuoted?_doubled (quote : Char) (name : List Char) {rest : List Char}
    (hrest : rest.head? ≠ some quote) :
    readQuoted? quote (doubled quote name ++ quote :: rest) = some (name, rest) := by
  induction name with
  | nil =>
    cases rest with
    | nil => simp [readQuoted?]
    | cons d rest => simp_all [readQuoted?]
  | cons c name ih =>
    by_cases hc : c = quote
    · subst hc
      rw [doubled, if_pos rfl, List.cons_append, List.cons_append, readQuoted?, if_neg (by simp),
        if_pos rfl, ih]
      rfl
    · rw [doubled, if_neg hc, List.cons_append, readQuoted?_cons_of_ne hc, ih]
      rfl

/-- A name is read back from where it was written, whatever characters it has. -/
theorem read?_render {quote : Char} (hquote : isWordChar quote = false) (name : String)
    {rest : List Char} (hrest : opens (goesOn quote) rest = false) :
    read? quote ((render quote name).toList ++ rest) = some (name, rest) := by
  cases hbare : isBare name with
  | false =>
    have hhead : rest.head? ≠ some quote := by
      intro h
      simp [opens, h, goesOn] at hrest
    rw [render_of_not_isBare hbare, quoted, String.toList_ofList, List.cons_append, read?,
      if_pos rfl, List.append_assoc, List.singleton_append, readQuoted?_doubled quote _ hhead]
    simp
  | true =>
    obtain ⟨hname, hword⟩ : name ≠ "" ∧ ∀ c ∈ name.toList, isWordChar c = true := by
      simpa [isBare] using hbare
    have hne : name.toList ≠ [] := by simpa using hname
    have hstop : opens isWordChar rest = false := by
      cases rest with
      | nil => rfl
      | cons c rest => simp_all [goesOn]
    obtain ⟨c, cs, hcs⟩ := List.exists_cons_of_ne_nil hne
    have hc : c ≠ quote := by
      rintro rfl
      simp [hword c (hcs ▸ List.mem_cons_self)] at hquote
    have hrun := run?_append hne hword hstop
    rw [render_of_isBare hbare]
    rw [hcs, List.cons_append] at hrun ⊢
    rw [read?, if_neg hc, hrun]
    simp [← hcs]

/-- A quote that is a word character makes a bare name of two quotes, which is how the empty name
is written. -/
theorem render_empty_eq_of_isWordChar {quote : Char} (hquote : isWordChar quote = true) :
    render quote "" = render quote (String.ofList [quote, quote]) := by
  have hempty : isBare "" = false := rfl
  have hquotes : isBare (String.ofList [quote, quote]) = true := by simp [isBare, hquote]
  rw [render_of_not_isBare hempty, render_of_isBare hquotes, quoted]
  rfl

/-- What a server makes of all names written with a quote. -/
structure Delimits (quote : Char) : Prop where
  /-- A name is read back with everything after it, unless that goes on with the name. -/
  read : ∀ name rest, opens (goesOn quote) rest = false →
    read? quote ((render quote name).toList ++ rest) = some (name, rest)
  /-- A text begins with one name at most. -/
  unique : ∀ name name' rest rest', opens (goesOn quote) rest = false →
    opens (goesOn quote) rest' = false →
      (render quote name).toList ++ rest = (render quote name').toList ++ rest' →
        name = name' ∧ rest = rest'
  /-- Different names are written differently. -/
  injective : Function.Injective (render quote)

/-- **Names are read back.** Bare and quoted names, the empty one and those with quotes anywhere
in them, are told apart just where the quote is not itself a character of bare names. -/
theorem delimits_iff_isWordChar (quote : Char) :
    Delimits quote ↔ isWordChar quote = false := by
  constructor
  · intro h
    refine Bool.eq_false_iff.2 fun hword => ?_
    have hsame := h.injective (render_empty_eq_of_isWordChar hword)
    exact absurd (congrArg String.toList hsame) (by simp)
  · intro hquote
    have hread (name : String) {rest : List Char} (hrest : opens (goesOn quote) rest = false) :=
      read?_render hquote name hrest
    refine ⟨fun name rest => hread name, fun name name' rest rest' hrest hrest' heq =>
      eq_of_reader_append (hread name hrest) (hread name' hrest') heq, fun name name' heq => ?_⟩
    exact (eq_of_reader_append (hread name (opens_nil _)) (hread name' (opens_nil _))
      (by rw [heq])).1

end QueryLayer.Identifier
