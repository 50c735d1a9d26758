import QueryLayer.Proofs.Reading.Name
import QueryLayer.Proofs.Text.Split

/-!
# What names mean to a PostgreSQL server

A PostgreSQL server takes a quoted name as it stands. It folds a bare name to lower case, and a dot in
it sets a qualifier apart. Which of the two a name is depends on its characters alone, so a name
comes to mean something else where it is written bare with an upper-case letter or a dot.
-/
namespace QueryLayer.Identifier
open Reading

/-- The parts of a bare name. -/
def foldedParts (name : String) : List String :=
  (Text.pieces '.' (name.toList.map Char.toLower)).map String.ofList

/-- The parts of a name, from its qualifiers to the name proper, as it is written for a server. -/
def parts (name : String) : List String := if isBare name then foldedParts name else [name]

/-- The parts of the name at the front of a text. -/
def resolve? : Reader (List String) := fun cs =>
  (read? '"' cs).map fun (name, rest) =>
    (if cs.head? = some '"' then [name] else foldedParts name, rest)

/-- A name that means what it says: bare, it has neither an upper-case letter nor a dot. -/
def IsPlain (name : String) : Prop :=
  isBare name = true → ∀ c ∈ name.toList, c.toLower = c ∧ c ≠ '.'

/-- Only a quoted name begins with a quote. -/
theorem head?_render_append (name : String) (rest : List Char) :
    ((render '"' name).toList ++ rest).head? = some '"' ↔ isBare name = false := by
  cases hbare : isBare name with
  | false => simp [render_of_not_isBare hbare, quoted]
  | true =>
    obtain ⟨hname, hword⟩ : name ≠ "" ∧ ∀ c ∈ name.toList, isWordChar c = true := by
      simpa [isBare] using hbare
    have hne : name.toList ≠ [] := by simpa using hname
    obtain ⟨c, cs, hcs⟩ := List.exists_cons_of_ne_nil hne
    have hc : c ≠ '"' := by
      rintro rfl
      exact absurd (hword '"' (hcs ▸ List.mem_cons_self)) (by decide)
    simp [render_of_isBare hbare, hcs, hc]

/-- A name is resolved into its parts from where it was written. -/
theorem resolve?_render (name : String) {rest : List Char}
    (hrest : opens (goesOn '"') rest = false) :
    resolve? ((render '"' name).toList ++ rest) = some (parts name, rest) := by
  have hhead := head?_render_append name rest
  rw [resolve?, read?_render (by decide) name hrest, parts]
  cases hbare : isBare name with
  | false => simp [hhead.2 hbare]
  | true =>
    have hne : ((render '"' name).toList ++ rest).head? ≠ some '"' := by
      rw [Ne, hhead, hbare]
      decide
    rw [Option.map_some, if_pos rfl]
    simp only [if_neg hne]

/-- The parts of a name are the name itself just where it means what it says. -/
theorem parts_eq_singleton_iff {name : String} : parts name = [name] ↔ IsPlain name := by
  rw [parts, IsPlain]
  cases hbare : isBare name with
  | false => simp
  | true =>
    have hpieces : foldedParts name = [name] ↔
        Text.pieces '.' (name.toList.map Char.toLower) = [name.toList] := by
      rw [foldedParts, List.map_eq_singleton_iff]
      constructor
      · rintro ⟨piece, hpiece, rfl⟩
        rw [hpiece, String.toList_ofList]
      · exact fun h => ⟨name.toList, h, String.ofList_toList⟩
    have hlower : name.toList = name.toList.map Char.toLower ↔
        ∀ c ∈ name.toList, c.toLower = c := by
      have hid := @List.map_inj_left _ _ name.toList Char.toLower id
      rw [List.map_id] at hid
      exact eq_comm.trans hid
    have hdot : '.' ∉ name.toList ↔ ∀ c ∈ name.toList, c ≠ '.' := by
      grind
    rw [if_pos rfl, hpieces, Text.pieces_eq_iff]
    simp only [ne_eq, List.cons_ne_nil, not_false_eq_true, List.intercalate_singleton,
      List.forall_mem_singleton, true_and, true_imp_iff, hlower, hdot, forall_and]

end QueryLayer.Identifier
