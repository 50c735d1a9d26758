/-!
# Splitting

Texts are cut at a separating character, or once at the first place where a mark occurs. The
pieces and the cuts together always make up the text again.
-/
namespace QueryLayer.Text

/-- The pieces between the occurrences of `sep`: one more than there are occurrences. -/
def pieces (sep : Char) : List Char → List (List Char)
  | [] => [[]]
  | c :: cs =>
    if c = sep then [] :: pieces sep cs
    else match pieces sep cs with
      | [] => [[c]]
      | p :: ps => (c :: p) :: ps

/-- What follows `mark` in a text that begins with it. -/
def rest? : List Char → List Char → Option (List Char)
  | [], cs => some cs
  | _ :: _, [] => none
  | m :: ms, c :: cs => if m = c then rest? ms cs else none

/-- What stands before and after the first occurrence of `mark`. -/
def cut? (mark : List Char) : List Char → Option (List Char × List Char)
  | [] => if mark = [] then some ([], []) else none
  | c :: cs =>
    match rest? mark (c :: cs) with
    | some rest => some ([], rest)
    | none => (cut? mark cs).map fun parts => (c :: parts.1, parts.2)

/-- Whether `mark` occurs in a text. -/
def occurs (mark cs : List Char) : Bool := (cut? mark cs).isSome

/-- What follows the first occurrence of `mark`, nothing where it does not occur. -/
def after (mark cs : List Char) : List Char := ((cut? mark cs).map (·.2)).getD []

theorem pieces_ne_nil (sep : Char) (cs : List Char) : pieces sep cs ≠ [] := by
  cases cs with
  | nil => simp [pieces]
  | cons c cs =>
    rw [pieces]
    split
    · simp
    · split <;> simp

/-- A text has a rest after `mark` exactly when it is `mark` followed by that rest. -/
theorem rest?_eq_some_iff {mark cs rest : List Char} :
    rest? mark cs = some rest ↔ cs = mark ++ rest := by
  fun_induction rest? mark cs with
  | case1 cs => simp [eq_comm]
  | case2 m ms => simp
  | case3 ms c cs ih => simp [ih]
  | case4 m ms c cs h => simp [Ne.symm h]

/-- A cut loses nothing: the two sides and the mark make up the text. -/
theorem eq_of_cut? {mark cs a b : List Char} (h : cut? mark cs = some (a, b)) :
    cs = a ++ mark ++ b := by
  induction cs generalizing a with
  | nil => by_cases hm : mark = [] <;> simp_all [cut?]
  | cons c cs ih =>
    rw [cut?] at h
    split at h
    · next rest hp =>
      rw [rest?_eq_some_iff] at hp
      simp_all
    · obtain ⟨⟨a', b'⟩, hc, hab⟩ := Option.map_eq_some_iff.1 h
      obtain ⟨rfl, rfl⟩ := Prod.mk.injEq .. ▸ hab
      simpa using ih hc

/-- What follows a mark is shorter than the text, whether or not the mark occurs. -/
theorem length_after_lt {mark : List Char} (hm : mark ≠ []) {cs : List Char} (hc : cs ≠ []) :
    (after mark cs).length < cs.length := by
  have := List.length_pos_iff.2 hm
  have := List.length_pos_iff.2 hc
  unfold after
  cases h : cut? mark cs with
  | none => simpa
  | some parts => rw [eq_of_cut? (a := parts.1) (b := parts.2) h]; simp; omega

end QueryLayer.Text
