import BoundSql.Condition.Column
import BoundSql.Page
import BoundSql.Query.Join

/-! Queries, and the common tables that they may begin with, each of which may hold a query. -/
namespace BoundSql

mutual

/-- A SELECT statement in its parts. The condition and the bodies of common tables that are
queries bind their values; the other texts are taken as they are. -/
structure Query where
  fields : List String := []
  distinct : Bool := false
  source : String
  label : Option String := none
  joins : List Join := []
  filter : Option Condition := none
  groupBy : List String := []
  having : Option String := none
  orderBy : List String := []
  limit : Option UInt64 := none
  offset : Option UInt64 := none
  common : List CommonTable := []
  /-- The text of a WITH clause, which counts only when there are no common tables. -/
  preamble : Option String := none

/-- A named table that a query defines for itself. -/
structure CommonTable where
  name : String
  columns : List String := []
  body : TableBody
  recursive : Bool := false

/-- What a common table consists of. -/
inductive TableBody where
  | query (q : Query)
  | raw (sql : String)

end

namespace Query

/-- The query of all rows and fields of a table. -/
def ofTable (table : String) : Query := { source := table }

inductive Step where
  | select (fields : List String)
  | distinct
  | label (name : String)
  | join (j : Join)
  | filter (condition : Condition)
  | groupBy (fields : List String)
  | having (sql : String)
  | orderBy (term : String)
  | limit (n : UInt64)
  | offset (n : UInt64)
  | page (number size : UInt64)
  | common (table : CommonTable)
  | preamble (sql : String)

/-- A query after a step: lists grow at the end, a filter is narrowed, and of anything else the
last one counts. -/
def apply (q : Query) : Step → Query
  | .select fields => { q with fields := q.fields ++ fields }
  | .distinct => { q with distinct := true }
  | .label name => { q with label := some name }
  | .join j => { q with joins := q.joins ++ [j] }
  | .filter condition => { q with filter := Condition.narrow q.filter condition }
  | .groupBy fields => { q with groupBy := q.groupBy ++ fields }
  | .having sql => { q with having := some sql }
  | .orderBy term => { q with orderBy := q.orderBy ++ [term] }
  | .limit n => { q with limit := some n }
  | .offset n => { q with offset := some n }
  | .page number size =>
    let page := Page.ofNumber number size
    { q with limit := page.limit, offset := page.offset }
  | .common table => { q with common := q.common ++ [table] }
  | .preamble sql => { q with preamble := some sql }

def applyAll (q : Query) (steps : List Step) : Query := steps.foldl apply q

def page (q : Query) : Page := ⟨q.limit, q.offset⟩

end Query
end BoundSql
