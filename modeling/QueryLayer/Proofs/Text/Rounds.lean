import QueryLayer.Proofs.Text.Lead

/-!
# The search for the first word

The first word is looked for in rounds. A round takes off blanks and then one parenthesis or one
comment, and the search is over when a round has nothing to take off or comes to a comment without an
end. Every round but the last leaves less than there was, so the search comes to an end on every
text, and what it leaves is the end of the text that begins with nothing to take off.
-/
namespace QueryLayer.QueryKind

/-- What a round comes to. -/
inductive Round where
  /-- There is another round on the text that is left. -/
  | again (cs : List Char)
  /-- The search is over, with the text that is left. -/
  | last (cs : List Char)

/-- A round on a text that begins with a comment, up to and with the mark that ends it. -/
def roundBehind (mark cs : List Char) : Round :=
  (Text.cut? mark cs).elim (.last []) fun parts => .again parts.2

/-- A round of the search. -/
def round (cs : List Char) : Round :=
  let trimmed := Text.trimStart cs
  if ['-', '-'] <+: trimmed then roundBehind ['\n'] trimmed
  else if ['/', '*'] <+: trimmed then roundBehind ['*', '/'] trimmed
  else if ['('] <+: trimmed then .again trimmed.tail
  else if trimmed = cs then .last trimmed
  else .again trimmed

/-- The rounds from a text to what is left of it when the search is over. -/
inductive Rounds : List Char → List Char → Prop
  | last {cs rest : List Char} (h : round cs = .last rest) : Rounds cs rest
  | again {cs next rest : List Char} (h : round cs = .again next) (rounds : Rounds next rest) :
      Rounds cs rest

/-- Texts that are empty or begin with none of the things that may stand before the first word. -/
structure NoLead (cs : List Char) : Prop where
  not_blank : ∀ c ∈ cs.head?, Text.isBlank c = false
  not_parenthesis : ¬ ['('] <+: cs
  not_line : ¬ ['-', '-'] <+: cs
  not_block : ¬ ['/', '*'] <+: cs

/-- How a round brings the search on: it leaves an end of the text, with the first word. -/
def Round.Advances (cs : List Char) : Round → Prop
  | again next => next <:+ cs ∧ next.length < cs.length ∧ afterLead next = afterLead cs
  | last rest => rest <:+ cs ∧ NoLead rest ∧ rest = afterLead cs

theorem noLead_nil : NoLead [] := by constructor <;> simp

theorem NoLead.dropLead?_eq_none {cs : List Char} (h : NoLead cs) : dropLead? cs = none := by
  cases cs with
  | nil => rfl
  | cons c cs =>
    have hblank : ¬ Text.isBlank c = true := by simp [h.not_blank c rfl]
    have hparenthesis : c ≠ '(' := by
      rintro rfl
      exact h.not_parenthesis ⟨cs, rfl⟩
    have hopening {a b : Char} (hab : ¬ [a, b] <+: c :: cs) : ¬ (c = a ∧ cs.head? = some b) := by
      rintro ⟨rfl, hhead⟩
      obtain ⟨text, rfl⟩ := List.head?_eq_some_iff.1 hhead
      exact hab ⟨text, rfl⟩
    rw [dropLead?, if_neg hblank, if_neg hparenthesis, if_neg (hopening h.not_line),
      if_neg (hopening h.not_block)]

/-- A round on the end of a text, with the first word, brings the search on from the text. -/
theorem Round.Advances.mono {round : Round} {trimmed cs : List Char} (h : round.Advances trimmed)
    (hsuffix : trimmed <:+ cs) (hafter : afterLead trimmed = afterLead cs) : round.Advances cs := by
  cases round with
  | again next =>
    obtain ⟨hnext, hlength, heq⟩ := h
    exact ⟨hnext.trans hsuffix, hlength.trans_le hsuffix.length_le, heq.trans hafter⟩
  | last rest =>
    obtain ⟨hrest, hclean, heq⟩ := h
    exact ⟨hrest.trans hsuffix, hclean, heq.trans hafter⟩

/-- A comment is taken off up to its end, and everything with it where it has none. -/
theorem advances_roundBehind {mark cs : List Char} (hmark : mark ≠ []) (hcs : cs ≠ [])
    (hdrop : dropLead? cs = some (Text.after mark cs)) : (roundBehind mark cs).Advances cs := by
  have hafter := afterLead_of_dropLead? hdrop
  have hlength := Text.length_after_lt hmark hcs
  rw [roundBehind]
  cases hcut : Text.cut? mark cs with
  | none =>
    have hnil : Text.after mark cs = [] := by simp [Text.after, hcut]
    have hempty : afterLead [] = [] := afterLead_of_dropLead?_eq_none rfl
    rw [hnil, hempty] at hafter
    exact ⟨List.nil_suffix, noLead_nil, hafter.symm⟩
  | some parts =>
    obtain ⟨before, behind⟩ := parts
    have hbehind : Text.after mark cs = behind := by simp [Text.after, hcut]
    rw [hbehind] at hafter hlength
    exact ⟨⟨before ++ mark, (Text.eq_of_cut? hcut).symm⟩, hlength, hafter.symm⟩

/-- Every round brings the search on, by whichever of its ways. -/
theorem advances_round (cs : List Char) : (round cs).Advances cs := by
  have hsuffix : Text.trimStart cs <:+ cs := List.dropWhile_suffix _
  have hafter := afterLead_trimStart cs
  have hblank := Text.isBlank_of_mem_head?_trimStart cs
  simp only [round]
  generalize Text.trimStart cs = trimmed at hsuffix hafter hblank ⊢
  -- The ways are tried in this order; the last of them has what all others were refused for.
  by_cases hline : ['-', '-'] <+: trimmed
  · rw [if_pos hline]
    obtain ⟨text, rfl⟩ := hline
    have hdash : Text.isBlank '-' = false := rfl
    exact (advances_roundBehind (by simp) (by simp) (by simp [dropLead?, hdash])).mono hsuffix hafter
  by_cases hblock : ['/', '*'] <+: trimmed
  · rw [if_neg hline, if_pos hblock]
    obtain ⟨text, rfl⟩ := hblock
    have hslash : Text.isBlank '/' = false := rfl
    exact (advances_roundBehind (by simp) (by simp) (by simp [dropLead?, hslash])).mono hsuffix hafter
  by_cases hparenthesis : ['('] <+: trimmed
  · rw [if_neg hline, if_neg hblock, if_pos hparenthesis]
    obtain ⟨text, rfl⟩ := hparenthesis
    have hdrop : dropLead? ('(' :: text) = some text := rfl
    have htail : (Round.again text).Advances ('(' :: text) :=
      ⟨List.suffix_cons _ _, Nat.lt_succ_self _, (afterLead_of_dropLead? hdrop).symm⟩
    exact htail.mono hsuffix hafter
  rw [if_neg hline, if_neg hblock, if_neg hparenthesis]
  by_cases hsame : trimmed = cs
  · rw [if_pos hsame]
    have hclean : NoLead trimmed := ⟨hblank, hparenthesis, hline, hblock⟩
    have hrest := afterLead_of_dropLead?_eq_none hclean.dropLead?_eq_none
    exact ⟨hsuffix, hclean, hrest.symm.trans hafter⟩
  · rw [if_neg hsame]
    have hlength : trimmed.length < cs.length :=
      lt_of_le_of_ne hsuffix.length_le fun h => hsame (hsuffix.eq_of_length h)
    exact ⟨hsuffix, hlength, hafter⟩

theorem Round.advances_of_eq {cs : List Char} {outcome : Round} (h : round cs = outcome) :
    outcome.Advances cs := h ▸ advances_round cs

/-- The search ends with the text from the first word on. -/
theorem rounds_afterLead (cs : List Char) : Rounds cs (afterLead cs) := by
  -- By induction on the length, which falls with every round but the last.
  induction hlength : cs.length using Nat.strong_induction_on generalizing cs with
  | _ length ih =>
    cases hround : round cs with
    | again next =>
      obtain ⟨-, hless, heq⟩ := Round.advances_of_eq hround
      rw [← heq]
      exact .again hround (ih next.length (hlength ▸ hless) next rfl)
    | last rest =>
      obtain ⟨-, -, heq⟩ := Round.advances_of_eq hround
      rw [← heq]
      exact .last hround

/-- What rounds leave is an end of the text without a lead, and the text from the first word on. -/
theorem Rounds.leaves {cs rest : List Char} (h : Rounds cs rest) :
    rest <:+ cs ∧ NoLead rest ∧ rest = afterLead cs := by
  induction h with
  | last hround => exact Round.advances_of_eq hround
  | again hround _ ih =>
    obtain ⟨hsuffix, -, hafter⟩ := Round.advances_of_eq hround
    obtain ⟨hrest, hclean, heq⟩ := ih
    exact ⟨hrest.trans hsuffix, hclean, heq.trans hafter⟩

/-- How the search for the first word goes on a text, and what it leaves. -/
structure Strips (cs rest : List Char) : Prop where
  /-- Each round that is not the last leaves less than there was. -/
  shortens : ∀ text next, round text = .again next → next.length < text.length
  /-- The search comes to an end, and there is one text that it can leave. -/
  rounds_iff : ∀ left, Rounds cs left ↔ left = rest
  /-- What is left is the end of the text. -/
  suffix : rest <:+ cs
  /-- It begins with nothing that may stand before the first word. -/
  noLead : NoLead rest
  /-- Another search leaves it as it is. -/
  afterLead_eq : afterLead rest = rest

/-- **The search for the first word comes to an end** on every text, and takes off all that may stand
before the word. -/
theorem strips_afterLead (cs : List Char) : Strips cs (afterLead cs) where
  shortens text next hround := (Round.advances_of_eq hround).2.1
  rounds_iff left := by
    constructor
    · intro h
      exact h.leaves.2.2
    · rintro rfl
      exact rounds_afterLead cs
  suffix := (rounds_afterLead cs).leaves.1
  noLead := (rounds_afterLead cs).leaves.2.1
  afterLead_eq := afterLead_of_dropLead?_eq_none (dropLead?_afterLead cs)

end QueryLayer.QueryKind
