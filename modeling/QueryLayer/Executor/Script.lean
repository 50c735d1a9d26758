import QueryLayer.Executor.Basic
import QueryLayer.Text.Split

/-!
# Scripted connections

A script answers statements by rules instead of a server. The first rule that a statement meets
answers it; a rule may be good for a number of answers only. All statements are kept in the
order in which they came.
-/
namespace QueryLayer
open Json (Value)

/-- An answer in `ρ` for the statements that meet all conditions given. -/
structure Rule (ρ : Type) where
  /-- The whole statement. -/
  whole : Option String := none
  /-- What the statement begins with. -/
  opening : Option String := none
  /-- What occurs in the statement. -/
  part : Option String := none
  /-- How many more answers the rule gives, without a bound when absent. -/
  remaining : Option Nat := none
  answer : ρ

/-- The rules left, and the statements so far. -/
structure Script (ρ : Type) where
  rules : List (Rule ρ) := []
  issued : List String := []

variable {ρ : Type}

namespace Rule

/-- Whether a rule answers a statement. -/
def answers (rule : Rule ρ) (sql : String) : Bool :=
  rule.whole.all (· = sql) &&
  rule.opening.all (fun text => (Text.rest? text.toList sql.toList).isSome) &&
  rule.part.all (fun text => Text.occurs text.toList sql.toList) &&
  rule.remaining.all (0 < ·)

/-- A rule after an answer. -/
def spend (rule : Rule ρ) : Rule ρ := { rule with remaining := rule.remaining.map (· - 1) }

/-- The answer of the first rule that a statement meets, and the rules after it. -/
def first? (sql : String) : List (Rule ρ) → Option (ρ × List (Rule ρ))
  | [] => none
  | rule :: rest =>
    if rule.answers sql then some (rule.answer, rule.spend :: rest)
    else (first? sql rest).map fun found => (found.1, rule :: found.2)

end Rule

namespace Script

/-- A statement is kept and answered, with `otherwise` where no rule answers it. -/
def ask (otherwise : ρ) (sql : String) : StateM (Script ρ) ρ := fun script =>
  match Rule.first? sql script.rules with
  | some (answer, rules) => (answer, ⟨rules, script.issued ++ [sql]⟩)
  | none => (otherwise, { script with issued := script.issued ++ [sql] })

/-- The statements so far are forgotten. -/
def forget (script : Script ρ) : Script ρ := { script with issued := [] }

end Script

/-- How the literals of a scripted connection are written. -/
inductive LiteralStyle where
  /-- As in the dialect. -/
  | plain
  /-- As JSON texts in angle brackets. -/
  | angled
  deriving Repr, DecidableEq

/-- A value as a literal of a scripted connection. -/
def LiteralStyle.literal (dialect : Dialect) : LiteralStyle → Value → String
  | plain => dialect.literal
  | angled => fun v => "<" ++ v.text ++ ">"

/-- A connection that a script of replies answers, with an empty output where no rule does. -/
def Executor.scripted (dialect : Dialect) (style : LiteralStyle) : Executor (Script Reply) where
  dialect
  literal := style.literal dialect
  execute := Script.ask (.ok {})

end QueryLayer
