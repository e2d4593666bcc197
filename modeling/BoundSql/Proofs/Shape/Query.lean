import BoundSql.Proofs.Query
import BoundSql.Proofs.Shape.Condition

/-! Queries that are written and read again, with the queries inside them. -/
namespace BoundSql

mutual

/-- The values of a query, those of its common tables included. -/
def Query.values : Query → List Value
  | ⟨_, _, _, _, _, filter, _, _, _, _, _, common, _⟩ =>
    filter.elim [] Condition.values ++ CommonTable.valuesAll common

def CommonTable.values : CommonTable → List Value
  | ⟨_, _, body, _⟩ => body.values

def TableBody.values : TableBody → List Value
  | .query q => q.values
  | .raw _ => []

def CommonTable.valuesAll : List CommonTable → List Value
  | [] => []
  | table :: rest => table.values ++ CommonTable.valuesAll rest

end

theorem CommonTable.values_eq (table : CommonTable) : table.values = table.body.values := by
  cases table
  rfl

theorem CommonTable.valuesAll_eq (tables : List CommonTable) :
    CommonTable.valuesAll tables = tables.flatMap CommonTable.values := by
  induction tables with
  | nil => rfl
  | cons table rest ih => rw [CommonTable.valuesAll, ih, List.flatMap_cons]

theorem Query.values_eq (q : Query) :
    q.values = q.filter.elim [] Condition.values ++ q.common.flatMap CommonTable.values := by
  cases q
  rw [Query.values, CommonTable.valuesAll_eq]

namespace Shape
open Node

variable {d : Dialect}

theorem joinKind?_ofJoinKind (k : JoinKind) : joinKind? d (ofJoinKind k) = some k := by
  cases k <;> rfl

theorem ofJoin_eq (j : Join) :
    ofJoin j = .table (record [["kind"], ["table"], ["alias"], ["on"]]
      [some (ofJoinKind j.kind), some (.text j.table), j.label.map .text, j.on.map .text]) := by
  simp [ofJoin, entry_eq, record]

theorem join?_ofJoin (j : Join) : join? d (ofJoin j) = some j := by
  rw [ofJoin_eq, join?, fields?_record (by decide) rfl]
  simp [joinKind?_ofJoinKind, text?, optional_text]

theorem plain_ofJoin (j : Join) : Plain (ofJoin j) := by
  rw [ofJoin_eq]
  exact plain_record ⟨plain_some (.text _), plain_text _, plain_optional_text _,
    plain_optional_text _⟩

theorem ofCommonTables_eq (tables : List CommonTable) :
    ofCommonTables tables = tables.map ofCommonTable := by
  induction tables with
  | nil => rfl
  | cons table rest ih => rw [ofCommonTables, ih, List.map_cons]

theorem ofCommonTable_eq (table : CommonTable) :
    ofCommonTable table = .table (record commonTableNames
      [some (.text table.name), listField .text table.columns, some (ofTableBody table.body),
        some (.bool table.recursive)]) := by
  cases table
  simp [ofCommonTable, listEntry_eq, record, commonTableNames]

theorem commonTable?_ofCommonTable {query : Node → Option Query} (table : CommonTable)
    (inside : ∀ inner, table.body = .query inner → query (ofQuery inner) = some inner) :
    commonTable? d query (ofCommonTable table) = some table := by
  have body : tableBody? query (ofTableBody table.body) = some table.body := by
    cases held : table.body with
    | query inner => simp [ofTableBody, tableBody?, variant?, inside inner held]
    | raw sql => rfl
  rw [ofCommonTable_eq, commonTable?, fields?_record (by decide) rfl]
  cases table
  simp [text?, texts_read, body, bool?]

theorem depth_lt_ofCommonTable {table : CommonTable} {inner : Query}
    (h : table.body = .query inner) : (ofQuery inner).depth < (ofCommonTable table).depth := by
  have body : (ofQuery inner).depth < (ofTableBody table.body).depth := by
    rw [h, ofTableBody]
    exact depth_lt_table ("query", ofQuery inner) List.mem_cons_self
  rw [ofCommonTable_eq]
  refine body.trans (depth_lt_record rfl ?_)
  simp

/-- The fields of a query in the order in which they are written. -/
def queryFields (q : Query) : List (Option Node) :=
  [listField .text q.fields, some (.bool q.distinct), some (.text q.source),
    q.label.map .text, listField ofJoin q.joins, q.filter.map ofCondition,
    listField .text q.groupBy, q.having.map .text, listField .text q.orderBy,
    q.limit.map ofCount, q.offset.map ofCount, listField ofCommonTable q.common,
    q.preamble.map .text]

theorem ofQuery_eq (q : Query) : ofQuery q = .table (record queryNames (queryFields q)) := by
  cases q
  rw [ofQuery, ofCommonTables_eq]
  simp [listEntry_eq, entry_eq, listField_id, record, queryNames, filterNames, queryFields]

theorem queryWithin_ofQuery (q : Query) {depth : Nat} (room : (ofQuery q).depth < depth) :
    queryWithin d depth (ofQuery q) = some q := by
  induction q using Query.induct generalizing depth with
  | step q ih =>
      obtain ⟨k, rfl⟩ := Nat.exists_eq_succ_of_ne_zero (Nat.ne_zero_of_lt room)
      have joins : orElse [] (listOf (join? d)) (listField ofJoin q.joins) = some q.joins :=
        orElse_listField fun j _ => join?_ofJoin j
      have tables : orElse [] (listOf (commonTable? d (queryWithin d k)))
          (listField ofCommonTable q.common) = some q.common := by
        refine orElse_listField fun table ht => commonTable?_ofCommonTable table fun inner body =>
          ih table ht inner body ?_
        have inside := depth_lt_ofCommonTable body
        have among := depth_lt_list _ (List.mem_map_of_mem (f := ofCommonTable) ht)
        have listed : listField ofCommonTable q.common =
            some (.list (q.common.map ofCommonTable)) := by
          rw [listField, if_neg]
          simp [List.ne_nil_of_mem ht]
        have within : (Node.list (q.common.map ofCommonTable)).depth < (ofQuery q).depth := by
          rw [ofQuery_eq]
          refine depth_lt_record rfl ?_
          simp [queryFields, listed]
        omega
      rw [ofQuery_eq, queryWithin, fields?_record (by decide) rfl, queryFields]
      cases q
      simp [text?, bool?, texts_read, joins, tables, optional_text, optional_count,
        optional_condition]

theorem query?_ofQuery (q : Query) : query? d (ofQuery q) = some q :=
  queryWithin_ofQuery q (Nat.lt_succ_self _)

theorem plain_ofCommonTable {table : CommonTable}
    (inside : ∀ inner, table.body = .query inner → Plain (ofQuery inner)) :
    Plain (ofCommonTable table) := by
  have body : Plain (ofTableBody table.body) := by
    cases held : table.body with
    | query inner => exact .table (List.forall_mem_singleton.mpr (inside inner held))
    | raw sql => exact .table (List.forall_mem_singleton.mpr (.text sql))
  rw [ofCommonTable_eq]
  exact plain_record ⟨plain_text _, plain_texts _, plain_some body, plain_some (.bool _)⟩

theorem plain_ofQuery {q : Query} (h : ∀ v ∈ q.values, v.isRealFree) : Plain (ofQuery q) := by
  induction q using Query.induct with
  | step q ih =>
      rw [Query.values_eq, List.forall_mem_append, List.forall_mem_flatMap] at h
      obtain ⟨own, tables⟩ := h
      have common : ∀ table ∈ q.common, Plain (ofCommonTable table) := by
        refine fun table ht => plain_ofCommonTable fun inner body => ih table ht inner body ?_
        have values := tables table ht
        rwa [CommonTable.values_eq, body, TableBody.values] at values
      rw [ofQuery_eq, queryFields]
      exact plain_record ⟨plain_texts _, plain_some (.bool _), plain_text _, plain_optional_text _,
        plain_listField fun j _ => plain_ofJoin j, plain_map (plain_filter own), plain_texts _,
        plain_optional_text _, plain_texts _, plain_optional_count _, plain_optional_count _,
        plain_listField common, plain_optional_text _⟩

theorem ofTableSelect_eq (s : TableSelect) :
    ofTableSelect s = .table (record selectionNames
      [s.filter.map ofCondition, s.groupBy.map .text, s.orderBy.map .text, s.limit.map ofCount,
        s.offset.map ofCount]) := by
  simp [ofTableSelect, entry_eq, record, selectionNames, filterNames]

theorem tableSelect?_ofTableSelect (s : TableSelect) :
    tableSelect? d (ofTableSelect s) = some s := by
  rw [ofTableSelect_eq, tableSelect?, fields?_record (by decide) rfl]
  simp [optional_condition, optional_text, optional_count]

theorem plain_ofTableSelect {s : TableSelect}
    (h : ∀ v ∈ s.filter.elim [] Condition.values, v.isRealFree) : Plain (ofTableSelect s) := by
  rw [ofTableSelect_eq]
  exact plain_record ⟨plain_map (plain_filter h), plain_optional_text _, plain_optional_text _,
    plain_optional_count _, plain_optional_count _⟩

end Shape
end BoundSql
