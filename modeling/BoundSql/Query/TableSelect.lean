import BoundSql.Query.Select

/-! The plain selection of all fields from one table. -/
namespace BoundSql

/-- A selection from a table: a filter, and the texts of a grouping and an order, which are taken
as they are. -/
structure TableSelect where
  filter : Option Condition := none
  groupBy : Option String := none
  orderBy : Option String := none
  limit : Option UInt64 := none
  offset : Option UInt64 := none

/-- The statement of a selection from the table of a name. -/
def TableSelect.compile (options : Options) (table : String) (s : TableSelect) :
    Except Fault Statement := do
  Name.checkTable table
  let filter ← Condition.whereClause s.filter
  let page : Page := ⟨s.limit, s.offset⟩
  return .raw ("SELECT * FROM " ++ table) ++ filter ++
    .raw (Query.textClause "GROUP BY" s.groupBy ++ Query.textClause "ORDER BY" s.orderBy ++
      page.clause options.pageSize)

end BoundSql
