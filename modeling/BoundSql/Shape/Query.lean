import BoundSql.Query.TableSelect
import BoundSql.Shape.Condition

/-! Queries in documents. What is not set is not written. -/
namespace BoundSql.Shape

/-- An entry for a field, unless it is unset. -/
def entry {α : Type} (key : String) (write : α → Node) : Option α → List (String × Node)
  | none => []
  | some x => [(key, write x)]

/-- An entry for a list, unless it is empty. -/
def listEntry {α : Type} (key : String) (write : α → Node) (items : List α) :
    List (String × Node) :=
  if items.isEmpty then [] else [(key, .list (items.map write))]

def ofCount (n : UInt64) : Node := .whole n.toNat

def filterNames : List String := ["where", "filter"]

def joinKind? (d : Dialect) (n : Node) : Option JoinKind :=
  match bareVariant? d.isNothing n with
  | some "INNER" | some "inner" => some .inner
  | some "LEFT" | some "left" => some .left
  | some "RIGHT" | some "right" => some .right
  | some "FULL" | some "full" => some .full
  | some "CROSS" | some "cross" => some .cross
  | _ => none

def ofJoinKind (k : JoinKind) : Node := .text k.sql

def join? (d : Dialect) (n : Node) : Option Join :=
  match fields? d.spareElements [["kind"], ["table"], ["alias"], ["on"]] n with
  | some [kind, table, label, on] => do
    return {
      kind := ← orElse .inner (joinKind? d) kind
      table := ← required text? table
      label := ← optional text? label
      on := ← optional text? on }
  | _ => none

def ofJoin (j : Join) : Node :=
  .table ([("kind", ofJoinKind j.kind), ("table", .text j.table)] ++
    entry "alias" .text j.label ++ entry "on" .text j.on)

/-- Reads the body of a common table, given how a query in it is read. -/
def tableBody? (query : Node → Option Query) (n : Node) : Option TableBody :=
  match variant? n with
  | some ("query", some content) => (query content).map .query
  | some ("raw", some content) => (text? content).map .raw
  | _ => none

def commonTableNames : List (List String) := [["name"], ["columns"], ["body"], ["recursive"]]

/-- Reads a common table, given how a query in it is read. -/
def commonTable? (d : Dialect) (query : Node → Option Query) (n : Node) : Option CommonTable :=
  match fields? d.spareElements commonTableNames n with
  | some [name, columns, body, recursive] => do
    return {
      name := ← required text? name
      columns := ← orElse [] (listOf text?) columns
      body := ← required (tableBody? query) body
      recursive := ← orElse false bool? recursive }
  | _ => none

def queryNames : List (List String) :=
  [["select"], ["distinct"], ["from"], ["alias"], ["joins"], filterNames, ["group_by"],
    ["having"], ["order_by"], ["limit"], ["offset"], ["ctes"], ["raw_with"]]

/-- Reads a query that is nested less deep than the given number. -/
def queryWithin (d : Dialect) : Nat → Node → Option Query
  | 0, _ => none
  | depth + 1, n =>
    match fields? d.spareElements queryNames n with
    | some [fields, distinct, source, label, joins, filter, groupBy, having, orderBy, limit,
        offset, common, preamble] => do
      return {
        fields := ← orElse [] (listOf text?) fields
        distinct := ← orElse false bool? distinct
        source := ← required text? source
        label := ← optional text? label
        joins := ← orElse [] (listOf (join? d)) joins
        filter := ← optional condition? filter
        groupBy := ← orElse [] (listOf text?) groupBy
        having := ← optional text? having
        orderBy := ← orElse [] (listOf text?) orderBy
        limit := ← optional count? limit
        offset := ← optional count? offset
        common := ← orElse [] (listOf (commonTable? d (queryWithin d depth))) common
        preamble := ← optional text? preamble }
    | _ => none

def query? (d : Dialect) (n : Node) : Option Query := queryWithin d (n.depth + 1) n

mutual

def ofQuery : Query → Node
  | ⟨fields, distinct, source, label, joins, filter, groupBy, having, orderBy, limit, offset,
      common, preamble⟩ =>
    .table (listEntry "select" .text fields ++
      [("distinct", .bool distinct), ("from", .text source)] ++
      entry "alias" .text label ++
      listEntry "joins" ofJoin joins ++
      entry "where" ofCondition filter ++
      listEntry "group_by" .text groupBy ++
      entry "having" .text having ++
      listEntry "order_by" .text orderBy ++
      entry "limit" ofCount limit ++
      entry "offset" ofCount offset ++
      listEntry "ctes" id (ofCommonTables common) ++
      entry "raw_with" .text preamble)

def ofCommonTable : CommonTable → Node
  | ⟨name, columns, body, recursive⟩ =>
    .table ([("name", .text name)] ++ listEntry "columns" .text columns ++
      [("body", ofTableBody body), ("recursive", .bool recursive)])

def ofTableBody : TableBody → Node
  | .query q => .table [("query", ofQuery q)]
  | .raw sql => .table [("raw", .text sql)]

def ofCommonTables : List CommonTable → List Node
  | [] => []
  | t :: rest => ofCommonTable t :: ofCommonTables rest

end

def selectionNames : List (List String) :=
  [filterNames, ["group_by"], ["order_by"], ["limit"], ["offset"]]

/-- Reads a selection from one table, whose name stands elsewhere. -/
def tableSelect? (d : Dialect) (n : Node) : Option TableSelect :=
  match fields? d.spareElements selectionNames n with
  | some [filter, groupBy, orderBy, limit, offset] => do
    return {
      filter := ← optional condition? filter
      groupBy := ← optional text? groupBy
      orderBy := ← optional text? orderBy
      limit := ← optional count? limit
      offset := ← optional count? offset }
  | _ => none

def ofTableSelect (s : TableSelect) : Node :=
  .table (entry "where" ofCondition s.filter ++ entry "group_by" .text s.groupBy ++
    entry "order_by" .text s.orderBy ++ entry "limit" ofCount s.limit ++
    entry "offset" ofCount s.offset)

end BoundSql.Shape
