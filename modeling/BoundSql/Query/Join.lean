import BoundSql.Name
import BoundSql.Text.Blank

/-! Joins of a query with further tables. -/
namespace BoundSql

inductive JoinKind where
  | inner
  | left
  | right
  | full
  | cross
deriving DecidableEq

def JoinKind.sql : JoinKind → String
  | inner => "INNER"
  | left => "LEFT"
  | right => "RIGHT"
  | full => "FULL"
  | cross => "CROSS"

/-- A join with a table. The text of its condition is taken as it is and never checked. -/
structure Join where
  kind : JoinKind := .inner
  table : String
  label : Option String := none
  on : Option String := none
deriving DecidableEq

namespace Join

/-- An alias as text, empty when there is none. -/
def aliasText : Option String → String
  | none => ""
  | some name => " AS " ++ name

/-- The text of a join. A cross join has no condition, and every other one needs one that is not
blank. -/
def compile (j : Join) : Except Fault String := do
  Name.checkTable j.table
  Name.checkOptional j.label
  let head := j.kind.sql ++ " JOIN " ++ j.table ++ aliasText j.label
  if j.kind = .cross then return head
  match Text.content? j.on with
  | some on => return head ++ " ON " ++ on
  | none => throw (.missingJoinCondition j.kind.sql j.table)

end Join
end BoundSql
