import BoundSql.Condition.Basic
import BoundSql.Shape.Fields

/-! Values and conditions in documents. A condition is told by its keys: with a field and an
operator it is a comparison, and else it has to be a group. Both notations agree here. -/
namespace BoundSql.Shape

/-- A whole number as a value, which is real if it does not fit into sixty-four bits with a sign
and fits without. -/
def wholeValue? (n : Int) : Option Value :=
  if -9223372036854775808 ≤ n ∧ n ≤ 9223372036854775807 then some (.integer (.ofInt n))
  else if 0 ≤ n ∧ n ≤ 18446744073709551615 then some (.real (.ofInt n))
  else none

mutual

/-- Reads a value. No value is written as a table. -/
def value? : Node → Option Value
  | .null => some .null
  | .bool b => some (.bool b)
  | .whole n => wholeValue? n
  | .real x => some (.real x)
  | .text s => some (.text s)
  | .list items => (values? items).map .list
  | .table _ => none
  | .unreadable => none

def values? : List Node → Option (List Value)
  | [] => some []
  | n :: rest =>
    match value? n, values? rest with
    | some v, some later => some (v :: later)
    | _, _ => none

end

mutual

def ofValue : Value → Node
  | .null => .null
  | .bool b => .bool b
  | .integer n => .whole n.toInt
  | .real x => .real x
  | .text s => .text s
  | .list items => .list (ofValues items)

def ofValues : List Value → List Node
  | [] => []
  | v :: rest => ofValue v :: ofValues rest

end

def connective? (n : Node) : Option Connective :=
  match bareVariant? Dialect.json.isNothing n with
  | some "AND" | some "and" => some .and
  | some "OR" | some "or" => some .or
  | _ => none

/-- Reads a comparison, whose value is null if it is left out. -/
def comparison? (n : Node) : Option Comparison :=
  match fields? false [["field"], ["operator"], ["value"]] n with
  | some [field, operator, value] => do
    return {
      field := ← required text? field
      operator := ← required text? operator
      value := ← orElse .null value? value }
  | _ => none

def groupNames : List (List String) := [["logic"], ["nested"]]

/-- Reads a condition that is nested less deep than the given number. -/
def conditionWithin : Nat → Node → Option Condition
  | 0, _ => none
  | depth + 1, n =>
    match comparison? n with
    | some c => some (.comparison c)
    | none =>
      match fields? false groupNames n with
      | some [connective, members] => do
        let connective ← optional connective? connective
        let members ← orElse [] (listOf (conditionWithin depth)) members
        if isClosed groupNames n then return .group connective members else none
      | _ => none

/-- Reads a condition, all of whose parts have to be readable, also those that are passed over. -/
def condition? (n : Node) : Option Condition :=
  if n.isReadable then conditionWithin (n.depth + 1) n else none

def ofConnective (c : Connective) : Node := .text c.sql

mutual

def ofCondition : Condition → Node
  | .comparison c =>
    .table [("field", .text c.field), ("operator", .text c.operator), ("value", ofValue c.value)]
  | .group connective members =>
    .table ((connective.map fun c => ("logic", ofConnective c)).toList ++
      [("nested", .list (ofConditions members))])

def ofConditions : List Condition → List Node
  | [] => []
  | c :: rest => ofCondition c :: ofConditions rest

end

end BoundSql.Shape
