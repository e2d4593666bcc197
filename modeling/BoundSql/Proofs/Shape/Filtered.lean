import BoundSql.Document.Reading
import BoundSql.Proofs.Filter.Narrowed
import BoundSql.Proofs.Page.Paged
import BoundSql.Proofs.Shape.Nested

/-! Filters in documents, and their comparisons in the statements of these. -/
namespace BoundSql
open Outcome

namespace Shape

/-- That a query has a filter, or a query in the body of a common table has. -/
inductive QueryFilter : Node → Node → Prop
  | own {n w : Node} (held : Holds queryNames filterNames n w) : QueryFilter n w
  | common {n w table inner : Node} {tables : List Node}
      (held : Holds queryNames ["ctes"] n (.list tables)) (listed : table ∈ tables)
      (body : Holds commonTableNames ["body"] table (.table [("query", inner)]))
      (within : QueryFilter inner w) : QueryFilter n w

/-- That a document has a filter. -/
inductive DocumentFilter : Node → Node → Prop
  | select {n w : Node} (held : Holds selectionNames filterNames n w) :
      DocumentFilter (.table [("select", n)]) w
  | query {n w : Node} (held : QueryFilter n w) : DocumentFilter (.table [("query", n)]) w
  | update {n w : Node} (held : Holds updateNames filterNames n w) :
      DocumentFilter (.table [("update", n)]) w
  | delete {n w : Node} (held : Holds deletionNames filterNames n w) :
      DocumentFilter (.table [("delete", n)]) w

variable {d : Dialect} {n w : Node}

theorem update?_filter {u : Update} (h : update? d n = some u) :
    FieldReads (optional condition?) updateNames filterNames n u.filter := by
  unfold update? at h
  split at h
  · rename_i table set filter read
    simp only [Option.bind_eq_bind, Option.bind_eq_some_iff, Option.pure_def,
      Option.some.injEq] at h
    obtain ⟨_, -, _, -, filtered, found, rfl⟩ := h
    exact .of_fields read (by decide) rfl found
  · cases h

theorem deletion?_filter {x : Deletion} (h : deletion? d n = some x) :
    FieldReads (optional condition?) deletionNames filterNames n x.filter := by
  unfold deletion? at h
  split at h
  · rename_i table filter read
    simp only [Option.bind_eq_bind, Option.bind_eq_some_iff, Option.pure_def,
      Option.some.injEq] at h
    obtain ⟨_, -, filtered, found, rfl⟩ := h
    exact .of_fields read (by decide) rfl found
  · cases h

theorem tableSelect?_filter {s : TableSelect} (h : tableSelect? d n = some s) :
    FieldReads (optional condition?) selectionNames filterNames n s.filter := by
  unfold tableSelect? at h
  split at h
  · rename_i filter groupBy orderBy limit offset read
    simp only [Option.bind_eq_bind, Option.bind_eq_some_iff, Option.pure_def,
      Option.some.injEq] at h
    obtain ⟨filtered, found, _, -, _, -, _, -, _, -, rfl⟩ := h
    exact .of_fields read (by decide) rfl found
  · cases h

theorem namedSelect?_filter {table : String} {s : TableSelect}
    (h : namedSelect? d n = some (table, s)) (held : Holds selectionNames filterNames n w) :
    optional condition? (some w) = some s.filter := by
  unfold namedSelect? at h
  split at h
  · rename_i entries
    simp only [Option.bind_eq_bind, Option.bind_eq_some_iff, Option.pure_def,
      Option.some.injEq, Option.ite_none_left_eq_some, Prod.mk.injEq] at h
    obtain ⟨_, -, -, _, -, selection, read, -, rfl⟩ := h
    cases held with
    | @key _ key _ named listed =>
        -- The name of the table is taken out, which is no name of a filter.
        have other : key ≠ "table" := by
          rintro rfl
          exact absurd named (by decide)
        exact (tableSelect?_filter read).of_holds
          (.key named (List.mem_filter.mpr ⟨listed, by simpa⟩))
  · cases h

theorem commonTable?_body {query : Node → Option Query} {t : Node} {x : CommonTable}
    (h : commonTable? d query t = some x) :
    FieldReads (required (tableBody? query)) commonTableNames ["body"] t x.body := by
  unfold commonTable? at h
  split at h
  · rename_i name columns body recursive read
    simp only [Option.bind_eq_bind, Option.bind_eq_some_iff, Option.pure_def,
      Option.some.injEq] at h
    obtain ⟨_, -, _, -, content, found, _, -, rfl⟩ := h
    exact .of_fields read (by decide) rfl found
  · cases h

theorem commonTable?_query {query : Node → Option Query} {t inner : Node} {x : CommonTable}
    (h : commonTable? d query t = some x)
    (held : Holds commonTableNames ["body"] t (.table [("query", inner)])) :
    ∃ q, query inner = some q ∧ x.body = .query q := by
  obtain ⟨q, read, is⟩ := Option.map_eq_some_iff.mp ((commonTable?_body h).of_holds held)
  exact ⟨q, read, is.symm⟩

/-- What each field of a query is read from. -/
structure QueryReads (d : Dialect) (depth : Nat) (n : Node) (q : Query) : Prop where
  fields : FieldReads (orElse [] (listOf text?)) queryNames ["select"] n q.fields
  distinct : FieldReads (orElse false bool?) queryNames ["distinct"] n q.distinct
  source : FieldReads (required text?) queryNames ["from"] n q.source
  label : FieldReads (optional text?) queryNames ["alias"] n q.label
  joins : FieldReads (orElse [] (listOf (join? d))) queryNames ["joins"] n q.joins
  filter : FieldReads (optional condition?) queryNames filterNames n q.filter
  groupBy : FieldReads (orElse [] (listOf text?)) queryNames ["group_by"] n q.groupBy
  having : FieldReads (optional text?) queryNames ["having"] n q.having
  orderBy : FieldReads (orElse [] (listOf text?)) queryNames ["order_by"] n q.orderBy
  limit : FieldReads (optional count?) queryNames ["limit"] n q.limit
  offset : FieldReads (optional count?) queryNames ["offset"] n q.offset
  common : FieldReads (orElse [] (listOf (commonTable? d (queryWithin d depth)))) queryNames
    ["ctes"] n q.common
  preamble : FieldReads (optional text?) queryNames ["raw_with"] n q.preamble

theorem queryWithin_reads {depth : Nat} {q : Query} (h : queryWithin d (depth + 1) n = some q) :
    QueryReads d depth n q := by
  rw [queryWithin] at h
  split at h
  · rename_i read
    obtain ⟨_, fields, h⟩ := Option.bind_eq_some_iff.mp h
    obtain ⟨_, distinct, h⟩ := Option.bind_eq_some_iff.mp h
    obtain ⟨_, source, h⟩ := Option.bind_eq_some_iff.mp h
    obtain ⟨_, label, h⟩ := Option.bind_eq_some_iff.mp h
    obtain ⟨_, joins, h⟩ := Option.bind_eq_some_iff.mp h
    obtain ⟨_, filter, h⟩ := Option.bind_eq_some_iff.mp h
    obtain ⟨_, groupBy, h⟩ := Option.bind_eq_some_iff.mp h
    obtain ⟨_, having, h⟩ := Option.bind_eq_some_iff.mp h
    obtain ⟨_, orderBy, h⟩ := Option.bind_eq_some_iff.mp h
    obtain ⟨_, limit, h⟩ := Option.bind_eq_some_iff.mp h
    obtain ⟨_, offset, h⟩ := Option.bind_eq_some_iff.mp h
    obtain ⟨_, common, h⟩ := Option.bind_eq_some_iff.mp h
    obtain ⟨_, preamble, h⟩ := Option.bind_eq_some_iff.mp h
    cases h
    exact {
      fields := .of_fields read (by decide) rfl fields
      distinct := .of_fields read (by decide) rfl distinct
      source := .of_fields read (by decide) rfl source
      label := .of_fields read (by decide) rfl label
      joins := .of_fields read (by decide) rfl joins
      filter := .of_fields read (by decide) rfl filter
      groupBy := .of_fields read (by decide) rfl groupBy
      having := .of_fields read (by decide) rfl having
      orderBy := .of_fields read (by decide) rfl orderBy
      limit := .of_fields read (by decide) rfl limit
      offset := .of_fields read (by decide) rfl offset
      common := .of_fields read (by decide) rfl common
      preamble := .of_fields read (by decide) rfl preamble }
  · cases h

/-- A filter in a query is the one of that query, or of a query within it. -/
theorem queryWithin_filter (held : QueryFilter n w) {depth : Nat} {q : Query}
    (h : queryWithin d depth n = some q) :
    ∃ inner : Query, inner.Within q ∧ optional condition? (some w) = some inner.filter := by
  induction held generalizing depth q with
  | own held =>
      cases depth with
      | zero => cases h
      | succ depth => exact ⟨q, .itself q, (queryWithin_reads h).filter.of_holds held⟩
  | common held listed body _ ih =>
      cases depth with
      | zero => cases h
      | succ depth =>
          have tables := (queryWithin_reads h).common.of_holds held
          obtain ⟨x, among, read⟩ := exists_right (mapM_some.mp tables) listed
          obtain ⟨middle, read, is⟩ := commonTable?_query read body
          obtain ⟨inner, within, found⟩ := ih read
          exact ⟨inner, .table among is within, found⟩

end Shape

theorem Query.filter_standsIn {options : Options} {q : Query} {s : Statement}
    (h : q.compile options = .ok s) :
    ∃ clause, Condition.whereClause q.filter = .ok clause ∧ clause.StandsIn s := by
  obtain ⟨entries, -, body, hbody, rfl⟩ := compile_ok.mp h
  obtain ⟨source, hsource, rfl⟩ := body_ok.mp hbody
  obtain ⟨-, -, joins, -, clause, made, rfl⟩ := sourceClause_ok.mp hsource
  have inSource : clause.StandsIn (.raw (" FROM " ++ q.source ++ Join.aliasText q.label ++
      joins) ++ clause) := (Statement.StandsIn.refl clause).after _
  exact ⟨clause, made, (((inSource.after _).before _).after _).before _⟩

namespace Shape
variable {d : Dialect} {n w : Node}

/-- Where a document has a filter, its one statement has the WHERE clause of that. -/
theorem document?_filter {options : Options} {document : Document} {statements : List Statement}
    (held : DocumentFilter n w) (read : document? d n = some document)
    (compiled : document.compile options = .ok statements) :
    ∃ filter clause s, statements = [s] ∧ optional condition? (some w) = some filter ∧
      Condition.whereClause filter = .ok clause ∧ clause.StandsIn s := by
  cases held with
  | select held =>
      obtain ⟨⟨table, selection⟩, decoded, rfl⟩ := Option.map_eq_some_iff.mp read
      obtain ⟨s, made, only⟩ := bind_ok.mp compiled
      obtain ⟨-, clause, filtered, rfl⟩ := TableSelect.compile_ok.mp made
      exact ⟨_, clause, _, (pure_ok.mp only).symm, namedSelect?_filter decoded held, filtered,
        ((Statement.StandsIn.refl clause).after _).before _⟩
  | query held =>
      obtain ⟨q, decoded, rfl⟩ := Option.map_eq_some_iff.mp read
      obtain ⟨s, made, only⟩ := bind_ok.mp compiled
      obtain ⟨inner, within, found⟩ := queryWithin_filter held decoded
      obtain ⟨t, inside, enclosed⟩ := Query.compile_within within made
      obtain ⟨clause, filtered, stands⟩ := Query.filter_standsIn inside
      exact ⟨_, clause, s, (pure_ok.mp only).symm, found, filtered, stands.trans enclosed⟩
  | update held =>
      obtain ⟨u, decoded, rfl⟩ := Option.map_eq_some_iff.mp read
      obtain ⟨s, made, only⟩ := bind_ok.mp compiled
      obtain ⟨-, -, -, clause, filtered, rfl⟩ := Update.compile_ok.mp made
      exact ⟨_, clause, _, (pure_ok.mp only).symm, (update?_filter decoded).of_holds held, filtered,
        (Statement.StandsIn.refl clause).after _⟩
  | delete held =>
      obtain ⟨x, decoded, rfl⟩ := Option.map_eq_some_iff.mp read
      obtain ⟨s, made, only⟩ := bind_ok.mp compiled
      obtain ⟨-, clause, filtered, rfl⟩ := Deletion.compile_ok.mp made
      exact ⟨_, clause, _, (pure_ok.mp only).symm, (deletion?_filter decoded).of_holds held,
        filtered, (Statement.StandsIn.refl clause).after _⟩

/-- That the comparisons in a filter of a document reach a statement. The WHERE clause of the filter
stands there and is read as all of them in their order, or is absent as there are none. -/
def Reaches (w : Node) (s : Statement) : Prop :=
  ∃ filter clause, optional condition? (some w) = some filter ∧
    Condition.whereClause filter = .ok clause ∧ clause.StandsIn s ∧
    (clause.sql = "" → comparisonsIn w = []) ∧
    (clause.sql ≠ "" → ∃ text formula, clause.sql = " WHERE " ++ text ∧
      Reader.read text clause.args = some formula ∧
      List.Forall₂ Comparison.ReadAs (comparisonsIn w) formula.atoms)

theorem filters_clause {filter : Option Condition} {clause : Statement}
    (made : Condition.whereClause filter = .ok clause) :
    Condition.Filters filter.toList clause := by
  cases filter with
  | none => exact Condition.Narrowed.none.filters made
  | some c => exact (Condition.Narrowed.none.narrow c).filters made

theorem reaches_iff {filter : Option Condition} {clause s : Statement}
    (found : optional condition? (some w) = some filter)
    (made : Condition.whereClause filter = .ok clause) (stands : clause.StandsIn s) :
    Reaches w s ↔ Unmixed w := by
  obtain ⟨part, whole⟩ := filter_comparisons found
  have kept := filters_clause made
  have own : filter.toList.flatMap Condition.comparisons =
      filter.elim [] Condition.comparisons := by cases filter <;> simp
  have absent : clause.sql = "" ↔ filter.elim [] Condition.comparisons = [] := by
    rw [kept.absent, ← own, List.flatMap_eq_nil_iff]
  have present := kept.present
  rw [own] at present
  rw [← whole]
  constructor
  · -- What the clause is read as has as many comparisons as it was made from.
    rintro ⟨_, _, found', made', -, empty, read⟩
    cases found.symm.trans found'
    cases made.symm.trans made'
    by_cases blank : clause.sql = ""
    · rw [absent.mp blank, empty blank]
    · obtain ⟨text, formula, is, reads, atoms⟩ := read blank
      obtain ⟨text', formula', is', reads', atoms', -⟩ := present blank
      obtain rfl : text = text' := by simpa using is.symm.trans is'
      cases reads.symm.trans reads'
      exact part.eq_of_length (atoms'.length_eq.trans atoms.length_eq.symm)
  · intro same
    rw [same] at absent present
    refine ⟨filter, clause, found, made, stands, absent.mp, ?_⟩
    intro text
    obtain ⟨text, formula, is, reads, atoms, -⟩ := present text
    exact ⟨text, formula, is, reads, atoms⟩

/-- Members of conditions are kept, unless a comparison lists them. A condition is read as the group
of its members unless it is a comparison, and the comparisons in the filters of a document reach its
statement unless one of them lists members that hold further ones. -/
theorem reaches_unless_mixed (options : Options) :
    (∀ n c, condition? n = some c →
      ((isClosed groupNames n ∧ ∃ connective members, c = .group connective members ∧
        List.Forall₂ (fun m x => condition? m = some x) (nested n) members) ↔
        comparison? n = none)) ∧
      ∀ (format : Format) (text : String) (n : Node) (document : Document)
        (statements : List Statement), format.read? text = some n →
        Document.read? format text = some document →
        document.compile options = .ok statements →
        ∀ w, DocumentFilter n w → ∃ s, statements = [s] ∧ (Reaches w s ↔ Unmixed w) := by
  refine ⟨fun n c => isGroup_iff, ?_⟩
  intro format text n document statements read decoded compiled w held
  rw [Document.read?, read, Option.bind_some] at decoded
  obtain ⟨filter, clause, s, only, found, made, stands⟩ := document?_filter held decoded compiled
  exact ⟨s, only, reaches_iff found made stands⟩

/-- A filter with groups in one another, whose comparisons are written as lists. -/
def groupedFilter : Node :=
  .table [("nested", .list [.table [("logic", .text "or"), ("nested", .list [
    .list [.text "a", .text "=", .whole 1], .list [.text "b", .text "is null"]])]])]

/-- What that filter is read as. -/
def grouped : Condition :=
  .group none [.any [.leaf "a" "=" (.integer 1), .leaf "b" "is null" .null]]

def recentText : String :=
  "\x7b\"query\":\x7b\"from\":\"recent\"," ++
    "\"ctes\":[\x7b\"name\":\"recent\",\"body\":\x7b\"query\":\x7b\"from\":\"users\"," ++
    "\"filter\":\x7b\"nested\":[\x7b\"logic\":\"or\",\"nested\":" ++
    "[[\"a\",\"=\",1],[\"b\",\"is null\"]]\x7d]\x7d\x7d\x7d\x7d]\x7d\x7d"

/-- A query in a common table that has this filter. -/
def recentTree : Node :=
  .table [("query", .table [("from", .text "recent"), ("ctes", .list [
    .table [("name", .text "recent"), ("body", .table [("query",
      .table [("from", .text "users"), ("filter", groupedFilter)])])]])])]

def recent : Query where
  source := "recent"
  common := [{ name := "recent", body := .query { source := "users", filter := some grouped } }]

theorem unmixed_groupedFilter : Unmixed groupedFilter := by
  refine .group rfl (List.forall_mem_singleton.mpr (.group rfl ?_))
  refine List.forall_mem_cons.mpr ⟨?_, List.forall_mem_singleton.mpr ?_⟩
  · exact .comparison (c := ⟨"a", "=", .integer 1⟩) rfl rfl
  · exact .comparison (c := ⟨"b", "is null", .null⟩) rfl rfl

set_option maxRecDepth 100000 in
theorem reaches_recent :
    condition? groupedFilter = some grouped ∧
    (∃ connective members, grouped = .group connective members ∧
      List.Forall₂ (fun m x => condition? m = some x) (nested groupedFilter) members) ∧
    Json.read? recentText = some recentTree ∧
    Document.read? .json recentText = some (.query recent) ∧
    DocumentFilter recentTree groupedFilter ∧
    ∃ s, (Document.query recent).compile {} = .ok [s] ∧
      s.sql = "WITH recent AS (SELECT * FROM users WHERE ((a = ? OR b IS NULL))) " ++
        "SELECT * FROM recent" ∧ Reaches groupedFilter s := by
  have condition : condition? groupedFilter = some grouped := by rfl
  have read : Json.read? recentText = some recentTree := by rfl
  have decoded : Document.read? .json recentText = some (.query recent) := by
    rw [Document.read?, Format.read?, read]
    rfl
  have compiled : (Document.query recent).compile {} = .ok
      [⟨"WITH recent AS (SELECT * FROM users WHERE ((a = ? OR b IS NULL))) " ++
        "SELECT * FROM recent", [.integer 1]⟩] := by rfl
  have held : DocumentFilter recentTree groupedFilter :=
    .query (.common (.key (by decide) (.tail _ (.head _))) (.head _)
      (.key (by decide) (.tail _ (.head _)))
      (.own (.key (by decide) (.tail _ (.head _)))))
  obtain ⟨conditions, documents⟩ := reaches_unless_mixed {}
  obtain ⟨-, group⟩ := (conditions groupedFilter grouped condition).mpr rfl
  obtain ⟨s, only, reaches⟩ :=
    documents .json recentText recentTree _ _ read decoded compiled _ held
  cases only
  exact ⟨condition, group, read, decoded, held, _, compiled, rfl,
    reaches.mpr unmixed_groupedFilter⟩

/-- A comparison that lists a member. -/
def mixedFilter : Node :=
  .table [("field", .text "a"), ("operator", .text "="), ("value", .whole 1), ("nested", .list [
    .table [("field", .text "b"), ("operator", .text "="), ("value", .whole 2)]])]

theorem comparisonsIn_mixedFilter :
    comparisonsIn mixedFilter = [⟨"a", "=", .integer 1⟩, ⟨"b", "=", .integer 2⟩] := by
  have member : comparisonsIn (.table [("field", .text "b"), ("operator", .text "="),
      ("value", .whole 2)]) = [⟨"b", "=", .integer 2⟩] := comparisonsIn_eq _
  have listed : nested mixedFilter = [.table [("field", .text "b"), ("operator", .text "="),
      ("value", .whole 2)]] := rfl
  rw [comparisonsIn_eq, listed, List.flatMap_singleton, member]
  rfl

def deletionText : String :=
  "\x7b\"delete\":\x7b\"table\":\"users\",\"where\":\x7b\"field\":\"a\",\"operator\":\"=\"," ++
    "\"value\":1,\"nested\":[\x7b\"field\":\"b\",\"operator\":\"=\",\"value\":2\x7d]\x7d\x7d\x7d"

def deletionTree : Node :=
  .table [("delete", .table [("table", .text "users"), ("where", mixedFilter)])]

set_option maxRecDepth 100000 in
/-- The member is passed over, and more rows are removed than the filter was to let through. -/
theorem mixedFilter_widens :
    Json.read? deletionText = some deletionTree ∧ DocumentFilter deletionTree mixedFilter ∧
    Document.read? .json deletionText =
      some (.delete ⟨"users", some (.leaf "a" "=" (.integer 1))⟩) ∧
    comparisonsIn mixedFilter = [⟨"a", "=", .integer 1⟩, ⟨"b", "=", .integer 2⟩] ∧
    (Document.delete ⟨"users", some (.leaf "a" "=" (.integer 1))⟩).compile {} =
      .ok [⟨"DELETE FROM users WHERE a = ?", [.integer 1]⟩] ∧
    ¬ Reaches mixedFilter ⟨"DELETE FROM users WHERE a = ?", [.integer 1]⟩ := by
  have read : Json.read? deletionText = some deletionTree := by rfl
  have held : DocumentFilter deletionTree mixedFilter :=
    .delete (.key (by decide) (.tail _ (.head _)))
  have decoded : Document.read? .json deletionText =
      some (.delete ⟨"users", some (.leaf "a" "=" (.integer 1))⟩) := by
    rw [Document.read?, Format.read?, read]
    rfl
  have condition : condition? mixedFilter = some (.leaf "a" "=" (.integer 1)) := by rfl
  have made : Condition.whereClause (some (.leaf "a" "=" (.integer 1))) =
      .ok ⟨" WHERE a = ?", [.integer 1]⟩ := by rfl
  have stands : Statement.StandsIn ⟨" WHERE a = ?", [.integer 1]⟩
      ⟨"DELETE FROM users WHERE a = ?", [.integer 1]⟩ :=
    ⟨.raw "DELETE FROM users", .raw "", by rfl⟩
  refine ⟨read, held, decoded, comparisonsIn_mixedFilter, by rfl, ?_⟩
  have found : optional condition? (some mixedFilter) =
      some (some (.leaf "a" "=" (.integer 1))) := congrArg (Option.map some) condition
  intro reaches
  have whole := (comparisons_eq_iff condition).mpr ((reaches_iff found made stands).mp reaches)
  rw [comparisonsIn_mixedFilter] at whole
  cases whole

end Shape
end BoundSql
