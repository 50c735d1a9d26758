import QueryLayer.Text.Split

/-!
# Laws of splitting

The pieces of a text are the only texts without the separator that make it up with separators
between them. A cut is made at the first place where the mark occurs: no other place leaves less
before it.
-/
namespace QueryLayer.Text

theorem pieces_eq_splitOn (sep : Char) (cs : List Char) : pieces sep cs = cs.splitOn sep := by
  induction cs with
  | nil => rfl
  | cons c cs ih =>
    rw [pieces, ih, List.splitOn_cons_eq_if_modifyHead]
    by_cases hc : c = sep
    · simp [hc]
    · have hne := List.splitOn_ne_nil sep cs
      cases h : cs.splitOn sep with
      | nil => exact absurd h hne
      | cons p ps => simp [hc]

theorem notMem_of_mem_pieces {sep : Char} {cs piece : List Char} (h : piece ∈ pieces sep cs) :
    sep ∉ piece := by
  induction cs generalizing piece with
  | nil => simp_all [pieces]
  | cons c cs ih =>
    rw [pieces] at h
    split at h
    · rcases List.mem_cons.1 h with rfl | h
      · simp
      · exact ih h
    · next hc =>
      split at h
      · next hnil => exact absurd hnil (pieces_ne_nil sep cs)
      · next p ps hps =>
        rcases List.mem_cons.1 h with rfl | h
        · have hp : sep ∉ p := ih (hps ▸ List.mem_cons_self)
          simp [hp, Ne.symm hc]
        · exact ih (hps ▸ List.mem_cons_of_mem p h)

/-- The pieces are what makes up a text with separators in between and holds none itself. -/
theorem pieces_eq_iff {sep : Char} {cs : List Char} {ps : List (List Char)} :
    pieces sep cs = ps ↔ ps ≠ [] ∧ [sep].intercalate ps = cs ∧ ∀ p ∈ ps, sep ∉ p := by
  constructor
  · intro h
    subst h
    refine ⟨pieces_ne_nil sep cs, ?_, fun p => notMem_of_mem_pieces⟩
    rw [pieces_eq_splitOn, List.intercalate_splitOn]
  · intro h
    rcases h with ⟨hne, rfl, hsep⟩
    rw [pieces_eq_splitOn, List.splitOn_intercalate sep hsep hne]

section Cut
variable {mark cs before behind : List Char}

/-- A cut leaves the least before the mark. -/
theorem length_le_of_cut? (h : cut? mark cs = some (before, behind)) {before' behind' : List Char}
    (h' : cs = before' ++ mark ++ behind') : before.length ≤ before'.length := by
  induction cs generalizing before before' with
  | nil =>
    rw [cut?] at h
    split at h <;> simp_all
  | cons c cs ih =>
    rw [cut?] at h
    split at h
    · obtain ⟨rfl, -⟩ := Prod.mk.injEq .. ▸ Option.some.inj h
      exact Nat.zero_le _
    · next hrest =>
      obtain ⟨⟨before₁, behind₁⟩, hcut, heq⟩ := Option.map_eq_some_iff.1 h
      obtain ⟨rfl, rfl⟩ := Prod.mk.injEq .. ▸ heq
      cases before' with
      | nil =>
        rw [List.nil_append] at h'
        rw [rest?_eq_some_iff.2 h'] at hrest
        cases hrest
      | cons d before' =>
        obtain ⟨-, htail⟩ := List.cons.inj h'
        exact Nat.succ_le_succ (ih hcut htail)

/-- There is no cut exactly where the mark does not occur. -/
theorem cut?_eq_none_iff : cut? mark cs = none ↔ ¬ ∃ before behind, cs = before ++ mark ++ behind := by
  constructor
  · intro h hx
    rcases hx with ⟨before, behind, rfl⟩
    induction before with
    | nil =>
      cases hcs : mark ++ behind with
      | nil => simp_all [cut?]
      | cons c cs =>
        rw [List.nil_append, hcs, cut?, rest?_eq_some_iff.2 hcs.symm] at h
        cases h
    | cons c before ih =>
      rw [List.cons_append, List.cons_append, cut?] at h
      split at h
      · cases h
      · exact ih (Option.map_eq_none_iff.1 h)
  · intro h
    cases hcut : cut? mark cs with
    | none => rfl
    | some parts => exact absurd ⟨parts.1, parts.2, eq_of_cut? hcut⟩ h

/-- A cut is where the mark occurs with the least before it. -/
theorem cut?_eq_some_iff : cut? mark cs = some (before, behind) ↔ cs = before ++ mark ++ behind ∧
    ∀ before' behind', cs = before' ++ mark ++ behind' → before.length ≤ before'.length := by
  constructor
  · exact fun h => ⟨eq_of_cut? h, fun _ _ => length_le_of_cut? h⟩
  · intro h
    rcases h with ⟨hcs, hleast⟩
    cases hcut : cut? mark cs with
    | none => exact absurd ⟨before, behind, hcs⟩ (cut?_eq_none_iff.1 hcut)
    | some parts =>
      obtain ⟨before₁, behind₁⟩ := parts
      have hcs₁ := eq_of_cut? hcut
      have hlength : before₁.length = before.length :=
        Nat.le_antisymm (length_le_of_cut? hcut hcs) (hleast _ _ hcs₁)
      rw [hcs₁, List.append_assoc, List.append_assoc] at hcs
      obtain ⟨rfl, htail⟩ := List.append_inj hcs hlength
      rw [List.append_cancel_left htail]

/-- A text is cut at a character that does not occur before. -/
theorem cut?_of_notMem {sep : Char} (h : sep ∉ before) (behind : List Char) :
    cut? [sep] (before ++ sep :: behind) = some (before, behind) := by
  induction before with
  | nil => simp [cut?, rest?]
  | cons c before ih =>
    obtain ⟨hc, hbefore⟩ := List.ne_and_not_mem_of_not_mem_cons h
    simp [cut?, rest?, hc, ih hbefore]

/-- A text that holds a character is cut at the first one. -/
theorem cut?_singleton (sep : Char) (cs : List Char) : cut? [sep] cs =
    if sep ∈ cs then some (cs.takeWhile (· ≠ sep), (cs.dropWhile (· ≠ sep)).tail) else none := by
  induction cs with
  | nil => rfl
  | cons c cs ih =>
    by_cases hc : c = sep
    · simp [cut?, rest?, hc]
    · rw [cut?, ih]
      by_cases hmem : sep ∈ cs <;> simp [rest?, hc, Ne.symm hc, hmem]

/-- A text is cut at a mark that does not come earlier, alone or with the start of the mark. -/
theorem cut?_append (hne : mark ≠ []) (h : cut? mark (before ++ mark.dropLast) = none)
    (behind : List Char) : cut? mark (before ++ mark ++ behind) = some (before, behind) := by
  refine cut?_eq_some_iff.2 ⟨rfl, fun before' behind' heq => ?_⟩
  apply Nat.le_of_not_lt
  intro hlength
  have hpos := List.length_pos_iff.2 hne
  have hearlier : before' ++ mark <+: before ++ mark ++ behind := ⟨behind', heq.symm⟩
  have hstart : before ++ mark.dropLast <+: before ++ mark ++ behind := by
    rw [List.append_assoc, List.prefix_append_right_inj]
    exact (List.dropLast_prefix mark).trans (List.prefix_append mark behind)
  obtain ⟨tail, htail⟩ : before' ++ mark <+: before ++ mark.dropLast := by
    refine List.prefix_of_prefix_length_le hearlier hstart ?_
    simp only [List.length_append, List.length_dropLast]
    omega
  exact cut?_eq_none_iff.1 h ⟨before', tail, htail.symm⟩

end Cut

end QueryLayer.Text
