import QueryLayer.Json.Text
import QueryLayer.Text.Split

/-!
# Conditions

A condition is what a filter asks of one column. Texts write conditions in a small language of
their own; the first of its forms that a text has is the one it means.

* `>=V`, `<=V`, `<>V`, `>V`, `<V`: a comparison
* `(a,b,c)`: one of several
* `lo..hi`: between two bounds
* a text with `*` or `?`: a pattern
* any other text: equality
-/
namespace QueryLayer
open Json (Number)

/-- The comparisons a text can begin with. -/
inductive Comparison where
  | atLeast
  | atMost
  | different
  | above
  | below
  deriving Repr, DecidableEq

/-- The sign of a comparison. -/
def Comparison.sign : Comparison → String
  | atLeast => ">="
  | atMost => "<="
  | different => "<>"
  | above => ">"
  | below => "<"

/-- The comparison a text begins with, the longest sign first, and what follows the sign. -/
def Comparison.read? : List Char → Option (Comparison × List Char)
  | '>' :: '=' :: rest => some (atLeast, rest)
  | '<' :: '=' :: rest => some (atMost, rest)
  | '<' :: '>' :: rest => some (different, rest)
  | '>' :: rest => some (above, rest)
  | '<' :: rest => some (below, rest)
  | _ => none

/-- What is asked of a column. -/
inductive Condition where
  | equalsNumber (value : Number)
  | compares (comparison : Comparison) (operand : String)
  | oneOf (members : List String)
  | between (low high : String)
  | like (pattern : String)
  | equals (value : String)
  deriving DecidableEq

namespace Condition

/-- The text between an opening parenthesis and a closing one at the end. -/
def enclosed? : List Char → Option (List Char)
  | '(' :: rest => if rest.getLast? = some ')' then some rest.dropLast else none
  | _ => none

/-- A wildcard as it is written in a pattern of the server. -/
def wildcard (c : Char) : Char := if c = '*' then '%' else if c = '?' then '_' else c

/-- The condition that characters mean. -/
def ofChars (cs : List Char) : Condition :=
  match Comparison.read? cs with
  | some (comparison, rest) => compares comparison (String.ofList rest)
  | none =>
    match enclosed? cs with
    | some inner => oneOf ((Text.pieces ',' inner).map String.ofList)
    | none =>
      match Text.cut? ['.', '.'] cs with
      | some (low, high) => between (String.ofList low) (String.ofList high)
      | none =>
        if '*' ∈ cs ∨ '?' ∈ cs then like (String.ofList (cs.map wildcard))
        else equals (String.ofList cs)

/-- The condition that a text means. -/
def ofText (text : String) : Condition := ofChars text.toList

/-- A condition on a column, as a clause of a statement. -/
def render (column : String) (literal : String → String) : Condition → String
  | equalsNumber n => column ++ " = " ++ n.text
  | compares comparison operand => column ++ " " ++ comparison.sign ++ " " ++ literal operand
  | oneOf members => column ++ " IN (" ++ ",".intercalate (members.map literal) ++ ")"
  | between low high =>
    "(" ++ column ++ " BETWEEN " ++ literal low ++ " AND " ++ literal high ++ ")"
  | like pattern => column ++ " LIKE " ++ literal pattern
  | equals value => column ++ " = " ++ literal value

end Condition
end QueryLayer
