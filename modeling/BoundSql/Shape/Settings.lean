import BoundSql.Settings.Basic
import BoundSql.Shape.Query

/-! Settings in documents. A setting that is unset is written as null. -/
namespace BoundSql.Shape

/-- Reads settings. In a table they may be left out, in a list they may not. -/
def settings? (d : Dialect) (n : Node) : Option Settings :=
  match fields? d.spareElements [["max_batch_rows"], ["default_page_size"]] n, n with
  | some [_, none], .list _ => none
  | some [rows, size], _ => do
    return { maxBatchRows := ← optional count? rows, pageSize := ← optional count? size }
  | _, _ => none

def ofSetting : Option UInt64 → Node
  | none => .null
  | some n => ofCount n

def ofSettings (s : Settings) : Node :=
  .table [("max_batch_rows", ofSetting s.maxBatchRows), ("default_page_size", ofSetting s.pageSize)]

end BoundSql.Shape
