import Mathlib.Data.List.Infix
import QueryLayer.Proofs.Text.Split
import QueryLayer.QueryKind

/-!
# What stands before the first word

Blanks, opening parentheses and comments may stand before the first word of a statement, any number
of them in any order, and its kind is the same with them as without. There is one exception. The end
of a block comment is looked for from its very beginning, so a slash right after the opening star is
taken for the end: the rest of such a comment, and all that stands behind it, is read as the
statement.
-/
namespace QueryLayer.QueryKind

/-- One thing that may stand before the first word. -/
inductive Lead where
  | blank (c : Char) (isBlank : Text.isBlank c = true)
  | parenthesis
  /-- A comment up to the end of its line. -/
  | line (text : List Char) (newline_notMem : '\n' ∉ text)
  /-- A comment up to the first end after its opening. -/
  | block (body : List Char) (unclosed : ¬ ['*', '/'] <:+: body)

namespace Lead

/-- A lead as it is written. -/
def chars : Lead → List Char
  | blank c _ => [c]
  | parenthesis => ['(']
  | line text _ => '-' :: '-' :: (text ++ ['\n'])
  | block body _ => '/' :: '*' :: (body ++ ['*', '/'])

/-- Block comments whose inside begins with a slash. -/
inductive IsSlashed : Lead → Prop
  | block {body : List Char} (unclosed : ¬ ['*', '/'] <:+: '/' :: body) :
      IsSlashed (block ('/' :: body) unclosed)

/-- What is left of a comment whose inside begins with a slash. -/
def leftover? : Lead → Option (List Char)
  | block ('/' :: body) _ => some (body ++ ['*', '/'])
  | _ => none

/-- What of some leads is read as the statement: nothing up to the first comment whose inside begins
with a slash, and everything behind that slash. -/
def unread : List Lead → List Char
  | [] => []
  | lead :: leads =>
    match lead.leftover? with
    | some left => left ++ leads.flatMap chars
    | none => unread leads

theorem leftover?_eq_none_iff {lead : Lead} : lead.leftover? = none ↔ ¬ lead.IsSlashed := by
  constructor
  · rintro h ⟨⟩
    cases h
  · intro h
    unfold leftover?
    split
    · exact absurd (.block _) h
    · rfl

theorem leftover?_ne_nil {lead : Lead} {left : List Char} (h : lead.leftover? = some left) :
    left ≠ [] := by
  unfold leftover? at h
  split at h
  · cases h
    simp
  · cases h

/-- All is passed over just where no comment begins with a slash. -/
theorem unread_eq_nil_iff {leads : List Lead} :
    unread leads = [] ↔ ∀ lead ∈ leads, ¬ lead.IsSlashed := by
  induction leads with
  | nil => simp [unread]
  | cons lead leads ih =>
    rw [unread, List.forall_mem_cons, ← ih, ← leftover?_eq_none_iff]
    split
    · next left hleft => simp [hleft, leftover?_ne_nil hleft]
    · next hnone => simp [hnone]

/-- The first end in a comment is the one that it is written with, unless it begins with a slash. -/
theorem unclosed_opening {body : List Char} (hbody : ¬ ['*', '/'] <:+: body)
    (hslash : body.head? ≠ some '/') : ¬ ['*', '/'] <:+: '/' :: '*' :: (body ++ ['*']) := by
  have hclosing : ¬ ['*', '/'] <:+: body ++ ['*'] := by
    rw [List.infix_concat_iff]
    rintro (⟨front, hfront⟩ | hinside)
    · have hlast := congrArg List.getLast? hfront
      simp at hlast
    · exact hbody hinside
  have hopening : ¬ ['*', '/'] <+: '*' :: (body ++ ['*']) := by
    cases body with
    | nil => decide
    | cons c body =>
      have hc : '/' ≠ c := fun h => hslash (by rw [← h]; rfl)
      simp [hc]
  have hfirst : ¬ ['*', '/'] <+: '/' :: '*' :: (body ++ ['*']) := by simp
  simp only [List.infix_cons_iff, not_or]
  exact ⟨hfirst, hopening, hclosing⟩

end Lead

theorem afterLead_of_dropLead? {cs rest : List Char} (h : dropLead? cs = some rest) :
    afterLead cs = afterLead rest := by
  rw [afterLead]
  split
  · next hrest =>
    rw [h] at hrest
    cases hrest
    rfl
  · next hnone =>
    rw [h] at hnone
    cases hnone

/-- Blanks in front are passed over anyway. -/
theorem afterLead_trimStart (cs : List Char) : afterLead (Text.trimStart cs) = afterLead cs := by
  cases cs with
  | nil => rfl
  | cons c cs =>
    cases hc : Text.isBlank c with
    | false => rw [Text.trimStart_cons_of_not_isBlank hc]
    | true =>
      have hdrop : dropLead? (c :: cs) = some (Text.trimStart cs) := by simp [dropLead?, hc]
      rw [Text.trimStart_cons_of_isBlank hc, afterLead_of_dropLead? hdrop]

/-- A comment goes up to the end of its line. -/
theorem dropLead?_line {text : List Char} (h : '\n' ∉ text) (cs : List Char) :
    dropLead? ('-' :: '-' :: (text ++ '\n' :: cs)) = some cs := by
  have hcut : Text.cut? ['\n'] ('-' :: '-' :: text ++ '\n' :: cs) = some ('-' :: '-' :: text, cs) :=
    Text.cut?_of_notMem (by simp [h]) cs
  rw [List.cons_append, List.cons_append] at hcut
  have hblank : Text.isBlank '-' = false := rfl
  simp [dropLead?, hblank, Text.after, hcut]

/-- A comment goes up to the first end in it. -/
theorem dropLead?_block {body : List Char}
    (h : ¬ ['*', '/'] <:+: '/' :: '*' :: (body ++ ['*'])) (cs : List Char) :
    dropLead? ('/' :: '*' :: (body ++ ['*', '/'] ++ cs)) = some cs := by
  have hnone : Text.cut? ['*', '/'] ('/' :: '*' :: body ++ ['*', '/'].dropLast) = none := by
    rw [Text.cut?_eq_none_iff]
    rintro ⟨front, back, heq⟩
    exact h ⟨front, back, heq.symm⟩
  have hcut : Text.cut? ['*', '/'] ('/' :: '*' :: body ++ ['*', '/'] ++ cs) =
      some ('/' :: '*' :: body, cs) := Text.cut?_append (by simp) hnone cs
  simp only [List.cons_append] at hcut
  have hblank : Text.isBlank '/' = false := rfl
  simp only [dropLead?, hblank, List.head?_cons, Text.after, hcut]
  simp

/-- The slash after the opening star is taken for the end. -/
theorem dropLead?_slashed (cs : List Char) : dropLead? ('/' :: '*' :: '/' :: cs) = some cs := rfl

/-- A lead is passed over, whatever follows it. -/
theorem afterLead_append {lead : Lead} (h : ¬ lead.IsSlashed) (cs : List Char) :
    afterLead (lead.chars ++ cs) = afterLead cs := by
  cases lead with
  | blank c hc =>
    rw [Lead.chars, List.singleton_append, ← afterLead_trimStart, Text.trimStart_cons_of_isBlank hc,
      afterLead_trimStart]
  | parenthesis => exact afterLead_of_dropLead? rfl
  | line text hnewline =>
    have hdrop := dropLead?_line hnewline cs
    rw [Lead.chars, List.cons_append, List.cons_append, List.append_assoc]
    exact afterLead_of_dropLead? hdrop
  | block body hbody =>
    have hslash : body.head? ≠ some '/' := by
      intro hhead
      obtain ⟨tail, rfl⟩ := List.head?_eq_some_iff.1 hhead
      exact h (.block hbody)
    exact afterLead_of_dropLead? (dropLead?_block (Lead.unclosed_opening hbody hslash) cs)

/-- A comment whose inside begins with a slash leaves the rest of its inside. -/
theorem afterLead_leftover {lead : Lead} {left : List Char} (h : lead.leftover? = some left)
    (cs : List Char) : afterLead (lead.chars ++ cs) = afterLead (left ++ cs) := by
  unfold Lead.leftover? at h
  split at h
  · cases h
    exact afterLead_of_dropLead? (dropLead?_slashed _)
  · cases h

/-- The leads that are passed over have no say in what follows. -/
theorem afterLead_flatMap (leads : List Lead) (cs : List Char) :
    afterLead (leads.flatMap Lead.chars ++ cs) = afterLead (Lead.unread leads ++ cs) := by
  induction leads with
  | nil => rfl
  | cons lead leads ih =>
    rw [List.flatMap_cons, List.append_assoc, Lead.unread]
    split
    · next left hleft => rw [afterLead_leftover hleft, List.append_assoc]
    · next hnone => rw [afterLead_append (Lead.leftover?_eq_none_iff.1 hnone), ih]

/-- **Leads do not change the kind of a statement**, unless one is a comment whose inside begins
with a slash: the statement then begins behind the slash of the first of them. -/
theorem ofSql_leads (leads : List Lead) (sql : String) :
    ofSql (String.ofList (leads.flatMap Lead.chars) ++ sql) =
        ofSql (String.ofList (Lead.unread leads) ++ sql) ∧
      (Lead.unread leads = [] ↔ ∀ lead ∈ leads, ¬ lead.IsSlashed) := by
  refine ⟨?_, Lead.unread_eq_nil_iff⟩
  simp only [ofSql, String.toList_append, String.toList_ofList, afterLead_flatMap]

/-- A selection behind a comment whose inside begins with a slash is not taken for one. -/
theorem ofSql_slashed :
    let comment : Lead := .block ['/', ' ', 'x', ' '] (by decide)
    String.ofList comment.chars ++ "SELECT 1" = "/*/ x */SELECT 1" ∧
      ofSql "/*/ x */SELECT 1" = .other ∧ ofSql "SELECT 1" = .select := by
  refine ⟨by decide, ?_, ?_⟩
  · decide +kernel
  · decide +kernel

end QueryLayer.QueryKind
