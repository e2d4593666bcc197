import BoundSql.Change.Row
import BoundSql.Options
import BoundSql.Statement

/-! INSERT statements of many rows, cut into batches of a limited size. -/
namespace BoundSql

/-- What happens to a row that collides with one that is there already. -/
inductive Conflict where
  | doNothing
  | update (target update : List String)
deriving DecidableEq

/-- The ON CONFLICT clause. The columns that a collision is found by and those that it updates
must be given. -/
def Conflict.compile : Conflict → Except Fault String
  | doNothing => .ok " ON CONFLICT DO NOTHING"
  | update target columns => do
    if target.isEmpty || columns.isEmpty then throw (.emptyInput .noConflictColumns)
    Name.checkIdentifiers (target ++ columns)
    let updates := columns.map fun column => column ++ " = excluded." ++ column
    return " ON CONFLICT(" ++ ", ".intercalate target ++ ") DO UPDATE SET " ++
      ", ".intercalate updates

/-- Rows to be inserted, with at most so many in a statement if that is given. -/
structure Insert where
  rows : List Row
  maxRows : Option UInt64 := none
  conflict : Option Conflict := none

namespace Insert

/-- The rest of the current chunk, which has room for so many elements, and the later chunks. -/
def cut {α : Type} (size : Nat) : Nat → List α → List α × List (List α)
  | _, [] => ([], [])
  | 0, x :: rest =>
    let (chunk, later) := cut size (size - 1) rest
    ([], (x :: chunk) :: later)
  | room + 1, x :: rest =>
    let (chunk, later) := cut size room rest
    (x :: chunk, later)

/-- Elements in chunks of a positive size, of which only the last may be smaller. -/
def chunks {α : Type} (size : Nat) (xs : List α) : List (List α) := (cut size 0 xs).2

/-- The most rows of a statement, by the insertion's own limit or else by the options. A limit of
zero rows counts as one. -/
def batchSize (options : Options) (i : Insert) : Nat :=
  max (i.maxRows.getD options.maxBatchRows).toNat 1

/-- The text of an INSERT statement up to its rows. -/
def head (a : Aligned) : String :=
  "INSERT INTO " ++ a.table ++ " (" ++ ", ".intercalate a.columns ++ ") VALUES "

def conflictClause (i : Insert) : Except Fault String :=
  match i.conflict with
  | none => .ok ""
  | some conflict => conflict.compile

/-- The statement of one batch: a group of placeholders for each row. -/
def batchStatement (a : Aligned) (conflict : String) (batch : List (List Value)) : Statement :=
  let group := "(" ++ ", ".intercalate (List.replicate a.columns.length "?") ++ ")"
  ⟨head a ++ ", ".intercalate (List.replicate batch.length group) ++ conflict, batch.flatten⟩

/-- The text of one batch with the values in it. -/
def batchText (a : Aligned) (conflict : String) (batch : List (List Value)) : String :=
  let group (row : List Value) := "(" ++ ", ".intercalate (Value.literals row) ++ ")"
  head a ++ ", ".intercalate (batch.map group) ++ conflict

def compile (options : Options) (i : Insert) : Except Fault (List Statement) := do
  let aligned ← Aligned.ofRows i.rows
  let conflict ← i.conflictClause
  return (chunks (i.batchSize options) aligned.values).map (batchStatement aligned conflict)

/-- The batches as texts with their values as literals. They are for reading only: nothing keeps a
value from changing what such a text does. -/
def compileLiteral (options : Options) (i : Insert) : Except Fault (List String) := do
  let aligned ← Aligned.ofRows i.rows
  let conflict ← i.conflictClause
  return (chunks (i.batchSize options) aligned.values).map (batchText aligned conflict)

end Insert
end BoundSql
