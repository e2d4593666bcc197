import BoundSql.Change.Insert
import BoundSql.Change.Update
import BoundSql.Shape.Query

/-! Insertions, updates and deletions in documents. Columns keep their order, and a column may
occur more than once. -/
namespace BoundSql.Shape

def row? (d : Dialect) (n : Node) : Option Row :=
  match fields? d.spareElements [["table"], ["fields"]] n with
  | some [table, fields] => do
    return { table := ← required text? table, fields := ← required (tableOf value?) fields }
  | _ => none

def ofFields (fields : List (String × Value)) : Node :=
  .table (fields.map fun (column, v) => (column, ofValue v))

def ofRow (r : Row) : Node := .table [("table", .text r.table), ("fields", ofFields r.fields)]

def conflictNames : List (List String) := [["target"], ["update"]]

def conflict? (d : Dialect) (n : Node) : Option Conflict :=
  match variant? n with
  | some ("do_nothing", none) => some .doNothing
  | some ("do_nothing", some content) => if d.isNothing content then some .doNothing else none
  | some ("update", some content) =>
    match fields? d.spareElements conflictNames content with
    | some [target, update] => do
      let target ← required (listOf text?) target
      let update ← required (listOf text?) update
      if d.closedVariants && !isClosed conflictNames content then none
      else return .update target update
    | _ => none
  | _ => none

def ofConflict : Conflict → Node
  | .doNothing => .text "do_nothing"
  | .update target update =>
    .table [("update",
      .table [("target", .list (target.map .text)), ("update", .list (update.map .text))])]

def updateNames : List (List String) := [["table"], ["set"], filterNames]

def update? (d : Dialect) (n : Node) : Option Update :=
  match fields? d.spareElements updateNames n with
  | some [table, set, filter] => do
    return {
      table := ← required text? table
      assignments := ← required (tableOf value?) set
      filter := ← optional condition? filter }
  | _ => none

def ofUpdate (u : Update) : Node :=
  .table ([("table", .text u.table), ("set", ofFields u.assignments)] ++
    entry "where" ofCondition u.filter)

def deletionNames : List (List String) := [["table"], filterNames]

def deletion? (d : Dialect) (n : Node) : Option Deletion :=
  match fields? d.spareElements deletionNames n with
  | some [table, filter] => do
    return { table := ← required text? table, filter := ← optional condition? filter }
  | _ => none

def ofDeletion (d : Deletion) : Node :=
  .table ([("table", .text d.table)] ++ entry "where" ofCondition d.filter)

def ofStatement (s : Statement) : Node :=
  .table [("sql", .text s.sql), ("args", .list (ofValues s.args))]

end BoundSql.Shape
