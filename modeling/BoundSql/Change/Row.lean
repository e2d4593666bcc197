import BoundSql.Name
import BoundSql.Value

/-! Rows to be inserted, brought under the columns of the first of them. -/
namespace BoundSql

/-- A row for a table: its columns and their values, in the order in which they were given. -/
structure Row where
  table : String
  fields : List (String × Value) := []

namespace Row

def columns (r : Row) : List String := r.fields.map (·.1)

/-- The value under a column, the first one if there are several. -/
def get? (r : Row) (column : String) : Option Value := r.fields.lookup column

/-- The first name that is in the list before or has been seen. -/
def firstRepeated (seen : List String) : List String → Option String
  | [] => none
  | name :: rest => if name ∈ seen then some name else firstRepeated (name :: seen) rest

/-- The first column that a row lists for the second time. -/
def repeatedColumn? (r : Row) : Option String := firstRepeated [] r.columns

/-- The table of a row and its columns, as faults name them. -/
def description (r : Row) : String := r.table ++ "(" ++ ", ".intercalate r.columns ++ ")"

/-- The values of columns in their order, if the row has them all. -/
def valuesOf (r : Row) : List String → Option (List Value)
  | [] => some []
  | column :: rest => do
    let value ← r.get? column
    let later ← r.valuesOf rest
    return value :: later

/-- The values of a row in the order of the first row's columns. The row must be for the same
table, repeat no column, and have the same columns. -/
def alignTo (first : Row) (index : Nat) (r : Row) : Except Fault (List Value) :=
  match r.repeatedColumn? with
  | some column => .error (.duplicateColumn index column)
  | none =>
    let values? :=
      if r.table ≠ first.table ∨ r.fields.length ≠ first.fields.length then none
      else r.valuesOf first.columns
    match values? with
    | some values => .ok values
    | none => .error (.schemaMismatch index first.description r.description)

/-- The values of rows in turn, where the first of them has the given index. -/
def alignAll (first : Row) (index : Nat) : List Row → Except Fault (List (List Value))
  | [] => .ok []
  | r :: rest => do
    let values ← alignTo first index r
    let later ← alignAll first (index + 1) rest
    return values :: later

end Row

/-- Rows under common columns. -/
structure Aligned where
  table : String
  columns : List String
  values : List (List Value)

/-- Rows under the columns of the first of them, which must have some. -/
def Aligned.ofRows : List Row → Except Fault Aligned
  | [] => .error (.emptyInput .noRows)
  | first :: rest => do
    Name.checkTable first.table
    if first.fields.isEmpty then throw (.emptyInput (.noColumns first.table))
    Name.checkIdentifiers first.columns
    let values ← Row.alignAll first 0 (first :: rest)
    return ⟨first.table, first.columns, values⟩

end BoundSql
