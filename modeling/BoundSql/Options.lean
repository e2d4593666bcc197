/-! The two limits that compiling a query depends on. -/
namespace BoundSql

/-- The rows of one INSERT statement when nothing else is configured. -/
def defaultBatchRows : UInt64 := 100

/-- The rows of a page when nothing else is configured. -/
def defaultPageRows : UInt64 := 20

/-- The limits of one compilation. -/
structure Options where
  /-- The most rows that one INSERT statement holds. -/
  maxBatchRows : UInt64 := defaultBatchRows
  /-- The rows of a page that starts at an offset and has no limit of its own. -/
  pageSize : UInt64 := defaultPageRows
deriving DecidableEq

end BoundSql
