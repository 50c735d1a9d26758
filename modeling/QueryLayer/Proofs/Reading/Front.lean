import QueryLayer.Text.Split

/-!
# Reading from the front

A reader takes a part off the front of a text and gives it back with the rest. Readers are run
one after the other; a list is read with a mark between its parts. Each reader comes with the
texts after which it stops, since a part ends only where the rest cannot go on with it.
-/
namespace QueryLayer.Reading
variable {α β : Type}

/-- The part at the front of a text and the rest, none where no such part is there. -/
abbrev Reader (α : Type) := List Char → Option (α × List Char)

/-- Whether a text begins with a character of a class. -/
def opens (p : Char → Bool) (cs : List Char) : Bool := cs.head?.any p

/-- The longest run of characters of a class, at least one. -/
def run? (p : Char → Bool) : Reader (List Char) := fun cs =>
  if opens p cs then some (cs.takeWhile p, cs.dropWhile p) else none

/-- Parts with a mark before each, as long as the mark comes. A part has to take something. -/
def more? (mark : List Char) (part : Reader α) (cs : List Char) : Option (List α × List Char) :=
  match Text.rest? mark cs with
  | none => some ([], cs)
  | some inner =>
    match part inner with
    | none => none
    | some (a, rest) =>
      if rest.length < cs.length then
        (more? mark part rest).map fun found => (a :: found.1, found.2)
      else none
termination_by cs.length

/-- At least one part, and a mark between any two. -/
def list? (mark : List Char) (part : Reader α) : Reader (List α) := fun cs => do
  let (a, cs) ← part cs
  let (as, cs) ← more? mark part cs
  return (a :: as, cs)

/-- A part after its keyword, or nothing where the keyword is missing. -/
def optional? (keyword : List Char) (part : Reader α) : Reader (Option α) := fun cs =>
  match Text.rest? keyword cs with
  | some cs => (part cs).map fun found => (some found.1, found.2)
  | none => some (none, cs)

/-- Nothing, or a text that begins with a blank: no word and no number goes on with it. -/
def Spaced (cs : List Char) : Prop := ∀ c ∈ cs.head?, c = ' '

@[simp] theorem opens_nil (p : Char → Bool) : opens p [] = false := rfl
@[simp] theorem opens_cons (p : Char → Bool) (c : Char) (cs : List Char) :
    opens p (c :: cs) = p c := rfl

/-- A text that begins with no character of a class begins with none of a narrower class. -/
theorem opens_mono {p q : Char → Bool} (hpq : ∀ c, p c = true → q c = true) {cs : List Char}
    (h : opens q cs = false) : opens p cs = false := by
  cases cs with
  | nil => rfl
  | cons c cs =>
    rw [opens_cons, Bool.eq_false_iff] at h ⊢
    exact fun hc => h (hpq c hc)

/-- What is read back from in front of any text after it is told apart from all else that is. -/
theorem eq_of_reader_append {part : Reader α} {a b : α} {written written' rest rest' : List Char}
    (ha : part (written ++ rest) = some (a, rest))
    (hb : part (written' ++ rest') = some (b, rest'))
    (heq : written ++ rest = written' ++ rest') : a = b ∧ rest = rest' := by
  rw [heq, hb] at ha
  exact (Prod.mk.inj (Option.some.inj ha)).imp Eq.symm Eq.symm

namespace Spaced
variable {cs cs' : List Char}

@[simp] theorem nil : Spaced [] := by simp [Spaced]

@[simp] theorem blank (cs : List Char) : Spaced (' ' :: cs) := by simp [Spaced]

theorem append (h : Spaced cs) (h' : Spaced cs') : Spaced (cs ++ cs') := by
  cases cs with
  | nil => exact h'
  | cons c cs => exact h

/-- A clause begins with the blank of its keyword. -/
theorem of_keyword {keyword : String} (h : keyword.toList.head? = some ' ') (rest : String) :
    Spaced (keyword ++ rest).toList := by
  simp [Spaced, String.toList_append, List.head?_append, h]

theorem opens (h : Spaced cs) {p : Char → Bool} (hp : p ' ' = false) : opens p cs = false := by
  cases cs with
  | nil => rfl
  | cons c cs => rwa [opens_cons, h c rfl]

end Spaced

theorem takeWhile_of_not_opens {p : Char → Bool} {cs : List Char} (h : opens p cs = false) :
    cs.takeWhile p = [] := by
  cases cs with
  | nil => rfl
  | cons c cs => rw [opens_cons] at h; simp [h]

theorem dropWhile_of_not_opens {p : Char → Bool} {cs : List Char} (h : opens p cs = false) :
    cs.dropWhile p = cs := by
  cases cs with
  | nil => rfl
  | cons c cs => rw [opens_cons] at h; simp [h]

/-- A run is read whole when the rest does not go on with it. -/
theorem run?_append {p : Char → Bool} {run rest : List Char} (hne : run ≠ [])
    (hrun : ∀ c ∈ run, p c = true) (hrest : opens p rest = false) :
    run? p (run ++ rest) = some (run, rest) := by
  have hopens : opens p (run ++ rest) = true := by
    cases run with
    | nil => exact absurd rfl hne
    | cons c run => exact hrun c List.mem_cons_self
  rw [run?, if_pos hopens, List.takeWhile_append_of_pos hrun, List.dropWhile_append_of_pos hrun,
    takeWhile_of_not_opens hrest, dropWhile_of_not_opens hrest, List.append_nil]

@[simp] theorem rest?_append (mark cs : List Char) : Text.rest? mark (mark ++ cs) = some cs :=
  Text.rest?_eq_some_iff.2 rfl

theorem optional?_append {keyword cs rest : List Char} {part : Reader α} {a : α}
    (h : part cs = some (a, rest)) : optional? keyword part (keyword ++ cs) = some (some a, rest) := by
  simp only [optional?, rest?_append, h, Option.map_some]

theorem optional?_of_rest?_eq_none {keyword cs : List Char} (part : Reader α)
    (h : Text.rest? keyword cs = none) : optional? keyword part cs = some (none, cs) := by
  simp only [optional?, h]

/-- A list with marks is its first part and then each other part after a mark. -/
theorem intercalate_cons (mark first : List Char) (others : List (List Char)) :
    mark.intercalate (first :: others) = first ++ others.flatMap (mark ++ ·) := by
  induction others generalizing first with
  | nil => simp
  | cons second others ih => simp [List.intercalate_cons_cons, ih]

section List
variable {mark : List Char} {part : Reader α} {text : β → List Char} {value : β → α}
  {stops : List Char → Prop}

/-- A part may stop before the parts that follow it as it may before the rest. -/
theorem stops_flatMap (hstops : ∀ cs, stops (mark ++ cs)) (items : List β) {rest : List Char}
    (hrest : stops rest) : stops (items.flatMap (fun b => mark ++ text b) ++ rest) := by
  cases items with
  | nil => exact hrest
  | cons b items =>
    rw [List.flatMap_cons, List.append_assoc, List.append_assoc]
    exact hstops _

/-- Parts that are read back one by one are read back in a row. -/
theorem more?_flatMap (hmark : mark ≠ []) (hstops : ∀ cs, stops (mark ++ cs)) (items : List β)
    (hpart : ∀ b ∈ items, ∀ rest, stops rest → part (text b ++ rest) = some (value b, rest))
    {rest : List Char} (hrest : stops rest) (hend : Text.rest? mark rest = none) :
    more? mark part (items.flatMap (fun b => mark ++ text b) ++ rest) =
      some (items.map value, rest) := by
  induction items with
  | nil => rw [List.flatMap_nil, List.nil_append, more?, hend]; rfl
  | cons b items ih =>
    let later := items.flatMap (fun b => mark ++ text b) ++ rest
    have hb : part (text b ++ later) = some (value b, later) :=
      hpart b List.mem_cons_self later (stops_flatMap hstops items hrest)
    have hlength : later.length < (mark ++ (text b ++ later)).length := by
      have := List.length_pos_iff.2 hmark
      simp only [List.length_append]
      omega
    rw [List.flatMap_cons, List.append_assoc, List.append_assoc, more?, rest?_append]
    simp only [later] at hb hlength ih
    simp only [hb, hlength, if_true]
    rw [ih fun b' hb' => hpart b' (List.mem_cons_of_mem b hb')]
    rfl

/-- A list of parts that are read back is read back. -/
theorem list?_intercalate (hmark : mark ≠ []) (hstops : ∀ cs, stops (mark ++ cs))
    {items : List β} (hne : items ≠ [])
    (hpart : ∀ b ∈ items, ∀ rest, stops rest → part (text b ++ rest) = some (value b, rest))
    {rest : List Char} (hrest : stops rest) (hend : Text.rest? mark rest = none) :
    list? mark part (mark.intercalate (items.map text) ++ rest) =
      some (items.map value, rest) := by
  obtain ⟨b, items, rfl⟩ := List.exists_cons_of_ne_nil hne
  have hsplit : mark.intercalate ((b :: items).map text) ++ rest =
      text b ++ (items.flatMap (fun b => mark ++ text b) ++ rest) := by
    rw [List.map_cons, intercalate_cons, List.flatMap_map, List.append_assoc]
  rw [hsplit, list?, hpart b List.mem_cons_self _ (stops_flatMap hstops items hrest)]
  simp only [Option.bind_eq_bind, Option.bind_some]
  rw [more?_flatMap hmark hstops items
    (fun b' hb' => hpart b' (List.mem_cons_of_mem b hb')) hrest hend]
  rfl

end List

/-- A part without a mark after it is a list of its own. -/
theorem list?_of_rest?_eq_none {mark cs rest : List Char} {part : Reader α} {a : α}
    (hpart : part cs = some (a, rest)) (hend : Text.rest? mark rest = none) :
    list? mark part cs = some ([a], rest) := by
  rw [list?, hpart]
  simp only [Option.bind_eq_bind, Option.bind_some]
  rw [more?, hend]
  rfl

/-- A list that is written with marks between its parts is read back. -/
theorem list?_joined {mark : String} {part : Reader α} {text : β → String} {value : β → α}
    {stops : List Char → Prop} (hmark : mark.toList ≠ []) (hstops : ∀ cs, stops (mark.toList ++ cs))
    {items : List β} (hne : items ≠ [])
    (hpart : ∀ b ∈ items, ∀ rest, stops rest →
      part ((text b).toList ++ rest) = some (value b, rest))
    {rest : List Char} (hrest : stops rest) (hend : Text.rest? mark.toList rest = none) :
    list? mark.toList part ((mark.intercalate (items.map text)).toList ++ rest) =
      some (items.map value, rest) := by
  have htext : (mark.intercalate (items.map text)).toList =
      mark.toList.intercalate (items.map fun b => (text b).toList) := by
    rw [String.toList_intercalate, List.map_map]
    rfl
  rw [htext]
  exact list?_intercalate hmark hstops hne hpart hrest hend

/-- A list that is written with commas is read back, if no part goes on with a comma. -/
theorem list?_commas {part : Reader α} {text : β → String} {value : β → α} {goesOn : Char → Bool}
    (hcomma : goesOn ',' = false) {items : List β} (hne : items ≠ [])
    (hpart : ∀ b ∈ items, ∀ rest, opens goesOn rest = false →
      part ((text b).toList ++ rest) = some (value b, rest))
    {rest : List Char} (hrest : opens goesOn rest = false)
    (hend : Text.rest? ", ".toList rest = none) :
    list? ", ".toList part ((", ".intercalate (items.map text)).toList ++ rest) =
      some (items.map value, rest) := by
  have hstops (cs : List Char) : opens goesOn (", ".toList ++ cs) = false := hcomma
  exact @list?_joined _ _ ", " part text value (opens goesOn · = false) (by simp) hstops items hne
    hpart rest hrest hend

end QueryLayer.Reading
