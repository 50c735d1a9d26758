import QueryLayer.Text.Blank
import QueryLayer.Text.Split

/-!
# Kinds of statements

The kind of a statement is told by its first word, after the blanks, comments and opening
parentheses that may stand before it.
-/
namespace QueryLayer

/-- What a statement does. -/
inductive QueryKind where
  | select
  | insert
  | update
  | delete
  /-- A question about the catalog. -/
  | catalog
  | other
  deriving Repr, DecidableEq

namespace QueryKind

/-- The name of a kind. -/
def name : QueryKind → String
  | select => "Select"
  | insert => "Insert"
  | update => "Update"
  | delete => "Delete"
  | catalog => "Show"
  | other => "Other"

/-- The text without its first blanks, parenthesis or comment, if it begins with one. A comment
without an end leaves nothing. -/
def dropLead? : List Char → Option (List Char)
  | [] => none
  | c :: cs =>
    if Text.isBlank c then some (Text.trimStart cs)
    else if c = '(' then some cs
    else if c = '-' ∧ cs.head? = some '-' then some (Text.after ['\n'] (c :: cs))
    else if c = '/' ∧ cs.head? = some '*' then some (Text.after ['*', '/'] (c :: cs))
    else none

theorem length_of_dropLead? {cs rest : List Char} (h : dropLead? cs = some rest) :
    rest.length < cs.length := by
  cases cs with
  | nil => simp [dropLead?] at h
  | cons c cs =>
    have hlen := Text.length_trimStart_le cs
    have hline := Text.length_after_lt (List.cons_ne_nil '\n' []) (List.cons_ne_nil c cs)
    have hblock := Text.length_after_lt (List.cons_ne_nil '*' ['/']) (List.cons_ne_nil c cs)
    rw [dropLead?] at h
    split at h
    · cases h; simp only [List.length_cons]; omega
    · split at h
      · cases h; simp
      · split at h
        · cases h; exact hline
        · split at h
          · cases h; exact hblock
          · cases h

/-- The text from its first word on. -/
def afterLead (cs : List Char) : List Char :=
  match _found : dropLead? cs with
  | some rest => afterLead rest
  | none => cs
termination_by cs.length
decreasing_by exact length_of_dropLead? (by assumption)

/-- Whether a text begins with a word, in capitals or not. -/
def beginsWith (word : String) (cs : List Char) : Bool :=
  (cs.take word.length).map Char.toUpper = word.toList

/-- The kind told by the first word. -/
def ofWord (cs : List Char) : QueryKind :=
  if beginsWith "SELECT" cs || beginsWith "WITH" cs then select
  else if beginsWith "INSERT" cs then insert
  else if beginsWith "UPDATE" cs then update
  else if beginsWith "DELETE" cs then delete
  else if beginsWith "SHOW" cs then catalog
  else other

/-- The kind of a statement. -/
def ofSql (sql : String) : QueryKind := ofWord (afterLead sql.toList)

/-- Nothing is dropped any more once the first word is reached. -/
theorem dropLead?_afterLead (cs : List Char) : dropLead? (afterLead cs) = none := by
  fun_induction afterLead cs with
  | case1 cs rest h ih => exact ih
  | case2 cs h => exact h

theorem afterLead_of_dropLead?_eq_none {cs : List Char} (h : dropLead? cs = none) :
    afterLead cs = cs := by
  rw [afterLead]
  split
  · next rest hrest => rw [h] at hrest; cases hrest
  · rfl

end QueryKind
end QueryLayer
