import BoundSql.Condition.Where

/-! UPDATE and DELETE statements. -/
namespace BoundSql

/-- New values for columns of the rows of a table. Without a filter every row gets them. -/
structure Update where
  table : String
  assignments : List (String × Value) := []
  filter : Option Condition := none

namespace Update

def set (u : Update) (column : String) (value : Value) : Update :=
  { u with assignments := u.assignments ++ [(column, value)] }

def narrow (u : Update) (condition : Condition) : Update :=
  { u with filter := Condition.narrow u.filter condition }

/-- The statement of an update: the arguments of its assignments come before those of its
filter. -/
def compile (u : Update) : Except Fault Statement := do
  Name.checkTable u.table
  if u.assignments.isEmpty then throw (.emptyInput (.noAssignments u.table))
  Name.checkIdentifiers (u.assignments.map (·.1))
  let filter ← Condition.whereClause u.filter
  let targets := u.assignments.map fun a => a.1 ++ " = ?"
  return ⟨"UPDATE " ++ u.table ++ " SET " ++ ", ".intercalate targets, u.assignments.map (·.2)⟩ ++
    filter

end Update

/-- The removal of rows from a table. Without a filter every row is removed. -/
structure Deletion where
  table : String
  filter : Option Condition := none

namespace Deletion

def narrow (d : Deletion) (condition : Condition) : Deletion :=
  { d with filter := Condition.narrow d.filter condition }

def compile (d : Deletion) : Except Fault Statement := do
  Name.checkTable d.table
  let filter ← Condition.whereClause d.filter
  return .raw ("DELETE FROM " ++ d.table) ++ filter

end Deletion
end BoundSql
