import BoundSql.Condition.Basic
import BoundSql.Name
import BoundSql.Operator
import BoundSql.Statement

/-! Conditions as the text of a WHERE clause. Comparisons are taken depth first and from left to
right, and each binds its values in the order of its placeholders. -/
namespace BoundSql

namespace Comparison

/-- The comparison under an operator: each operator takes the values that fit it. -/
def apply (c : Comparison) (op : Operator) : Except Fault Statement :=
  if op.isUnary then
    match c.value with
    | .null => .ok (.raw (c.field ++ " " ++ op.sql))
    | _ => .error (.malformedCondition (.unaryWithValue op.sql c.field))
  else if op.isMembership then
    match c.value with
    | .list [] => .error (.malformedCondition (.noMembers op.sql c.field))
    | .list items =>
      .ok ⟨c.field ++ " " ++ op.sql ++ " (" ++
        ", ".intercalate (List.replicate items.length "?") ++ ")", items⟩
    | value => .ok ⟨c.field ++ " " ++ op.sql ++ " (?)", [value]⟩
  else if op = .between then
    match c.value with
    | .list [low, high] => .ok ⟨c.field ++ " BETWEEN ? AND ?", [low, high]⟩
    | _ => .error (.malformedCondition (.notTwoBounds c.field))
  else .ok ⟨c.field ++ " " ++ op.sql ++ " ?", [c.value]⟩

def compile (c : Comparison) : Except Fault Statement := do
  if c.field = "" then throw (.malformedCondition (.noField c.operator))
  if Text.trim c.operator = "" then throw (.malformedCondition (.noOperator c.field))
  Name.checkColumn c.field
  let op ← Operator.parse c.operator
  c.apply op

end Comparison

namespace Condition

/-- The members of a group as one text in parentheses, those left out that hold no comparison. -/
def enclosed (connective : Option Connective) (members : List String) : String :=
  match members.filter (· ≠ "") with
  | [] => ""
  | members =>
    "(" ++ (" " ++ (connective.getD .and).sql ++ " ").intercalate members ++ ")"

mutual

/-- The text of a condition, and the values bound by then, the given ones first. They are there
also when the condition has a fault. -/
def compileInto : Condition → List Value → Except Fault String × List Value
  | comparison c, bound =>
    match c.compile with
    | .error fault => (.error fault, bound)
    | .ok part => (.ok part.sql, bound ++ part.args)
  | group connective members, bound =>
    let (texts, bound) := compileAllInto members bound
    (texts.map (enclosed connective), bound)

/-- Goes through conditions in turn, up to the first fault. Each gets the values bound so far. -/
def compileAllInto : List Condition → List Value → Except Fault (List String) × List Value
  | [], bound => (.ok [], bound)
  | condition :: rest, bound =>
    match condition.compileInto bound with
    | (.error fault, bound) => (.error fault, bound)
    | (.ok text, bound) =>
      let (texts, bound) := compileAllInto rest bound
      (texts.map (text :: ·), bound)

end

/-- The text of a condition with its values. The text is empty if the condition holds no
comparison. -/
def compile (condition : Condition) : Except Fault Statement :=
  let (text, bound) := condition.compileInto []
  text.map fun sql => ⟨sql, bound⟩

/-- The WHERE clause of a filter, empty for a filter that holds no comparison. -/
def whereClause : Option Condition → Except Fault Statement
  | none => .ok (.raw "")
  | some condition => do
    let part ← condition.compile
    return if part.sql = "" then part else .raw " WHERE " ++ part

end Condition
end BoundSql
