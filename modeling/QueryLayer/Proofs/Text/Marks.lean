import QueryLayer.Proofs.Reading.Front
import QueryLayer.Proofs.Text.Split
import QueryLayer.Template

/-!
# Filled templates

Filling a template puts one literal between each two pieces of it, as long as there are values, and
leaves the marks after them. What is filled in has no part in the count of the marks, so a template
may be filled piece by piece: the part behind takes the values that the part in front has marks for.
-/
namespace QueryLayer.Template
open Json (Value)

variable (literal : Value → String)

/-- A text in two parts is filled part by part, each mark of the first taking one value. -/
theorem fillChars_append (front back : List Char) (values : List Value) :
    fillChars literal (front ++ back) values =
      fillChars literal front (values.take (front.count '?')) ++
        fillChars literal back (values.drop (front.count '?')) := by
  induction front generalizing values with
  | nil => simp [fillChars]
  | cons c front ih =>
    cases values with
    | nil => simp
    | cons v values =>
      by_cases hc : c = '?'
      · subst hc
        rw [List.cons_append, fillChars, if_pos rfl, ih, List.count_cons_self, List.take_succ_cons,
          List.drop_succ_cons, fillChars, if_pos rfl, List.append_assoc]
      · rw [List.cons_append, fillChars, if_neg hc, ih, List.count_cons_of_ne hc]
        cases hcount : front.count '?' with
        | zero => simp
        | succ n => rw [List.take_succ_cons, fillChars, if_neg hc, List.cons_append]

/-- A text without marks takes no value. -/
theorem fillChars_of_notMem {piece : List Char} (h : '?' ∉ piece) (values : List Value) :
    fillChars literal piece values = piece := by
  have hsplit := fillChars_append literal piece [] values
  rw [List.append_nil, List.count_eq_zero_of_not_mem h, List.take_zero,
    fillChars_nil_values] at hsplit
  simpa [fillChars] using hsplit

/-- Pieces with values before them, and with marks where there are no values any more. -/
theorem fillChars_flatMap {pieces : List (List Char)} (h : ∀ piece ∈ pieces, '?' ∉ piece)
    (values : List Value) :
    fillChars literal (pieces.flatMap ('?' :: ·)) values =
      ((values.zip pieces).flatMap fun filled => (literal filled.1).toList ++ filled.2) ++
        (pieces.drop values.length).flatMap ('?' :: ·) := by
  induction pieces generalizing values with
  | nil => simp [fillChars]
  | cons piece pieces ih =>
    cases values with
    | nil => simp
    | cons v values =>
      obtain ⟨hpiece, hpieces⟩ := List.forall_mem_cons.1 h
      rw [List.flatMap_cons, List.cons_append, fillChars, if_pos rfl, fillChars_append,
        fillChars_of_notMem literal hpiece, List.count_eq_zero_of_not_mem hpiece, List.drop_zero,
        ih hpieces, List.zip_cons_cons, List.flatMap_cons, List.length_cons, List.drop_succ_cons,
        List.append_assoc, List.append_assoc]

/-- Every template is its pieces with marks in between, and no piece has a mark. -/
theorem exists_pieces (template : String) : ∃ first later,
    template = "?".intercalate (first :: later) ∧
      ∀ piece ∈ first :: later, '?' ∉ piece.toList := by
  obtain ⟨hne, hjoin, hmark⟩ := Text.pieces_eq_iff.1 (Eq.refl (Text.pieces '?' template.toList))
  obtain ⟨first, later, hpieces⟩ := List.exists_cons_of_ne_nil hne
  rw [hpieces] at hjoin hmark
  refine ⟨String.ofList first, later.map String.ofList, String.toList_inj.1 ?_, ?_⟩
  · rw [← List.map_cons, String.toList_intercalate, List.map_map, ← hjoin]
    simp [Function.comp_def]
  · rw [← List.map_cons]
    intro piece hpiece
    obtain ⟨chars, hchars, rfl⟩ := List.mem_map.1 hpiece
    rw [String.toList_ofList]
    exact hmark chars hchars

/-- A template is filled piece by piece. -/
theorem fill_intercalate {first : String} {later : List String}
    (h : ∀ piece ∈ first :: later, '?' ∉ piece.toList) (values : List Value) :
    fill literal ("?".intercalate (first :: later)) values =
      first ++ String.join ((values.zip later).map fun filled => literal filled.1 ++ filled.2) ++
        String.join ((later.drop values.length).map ("?" ++ ·)) := by
  obtain ⟨hfirst, hlater⟩ := List.forall_mem_cons.1 h
  have hpieces : ∀ piece ∈ later.map String.toList, '?' ∉ piece := by simpa using hlater
  have hchars : ("?".intercalate (first :: later)).toList =
      first.toList ++ (later.map String.toList).flatMap ('?' :: ·) := by
    rw [String.toList_intercalate, List.map_cons, Reading.intercalate_cons]
    rfl
  apply String.toList_inj.1
  rw [fill, String.toList_ofList, hchars, fillChars_append, fillChars_of_notMem literal hfirst,
    List.count_eq_zero_of_not_mem hfirst, List.drop_zero, fillChars_flatMap literal hpieces]
  simp [String.toList_join, List.zip_map_right, List.flatMap_map, ← List.map_drop]

/-- **A template is filled in order.** The first values stand in the places of the first marks;
values beyond the last mark are not used, marks beyond the last value are left, and no literal is
looked through for marks. A template in two parts is filled part by part. -/
theorem fills_in_order :
    (∀ template values, ∃ first later, template = "?".intercalate (first :: later) ∧
      (∀ piece ∈ first :: later, '?' ∉ piece.toList) ∧
      fill literal template values =
        first ++ String.join ((values.zip later).map fun filled => literal filled.1 ++ filled.2) ++
          String.join ((later.drop values.length).map ("?" ++ ·))) ∧
      ∀ front back values, fill literal (front ++ back) values =
        fill literal front (values.take (front.toList.count '?')) ++
          fill literal back (values.drop (front.toList.count '?')) := by
  constructor
  · intro template values
    obtain ⟨first, later, rfl, hmark⟩ := exists_pieces template
    exact ⟨first, later, rfl, hmark, fill_intercalate literal hmark values⟩
  · intro front back values
    rw [fill, String.toList_append, fillChars_append, String.ofList_append]
    rfl

end QueryLayer.Template
