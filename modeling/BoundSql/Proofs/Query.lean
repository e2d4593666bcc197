import BoundSql.Proofs.Condition
import BoundSql.Query.Select

/-! Queries taken apart: induction over the queries inside a query, and what a query and the parts
of it compile to. -/
namespace BoundSql
open Outcome

namespace Query

/-- Induction on a query, with the hypothesis for the queries that its common tables consist
of. -/
theorem induct {P : Query → Prop}
    (step : ∀ q, (∀ table ∈ q.common, ∀ inner, table.body = .query inner → P inner) → P q)
    (q : Query) : P q :=
  @Query.rec P (fun table => ∀ inner, table.body = .query inner → P inner)
    (fun body => ∀ inner, body = .query inner → P inner)
    (fun tables => ∀ table ∈ tables, ∀ inner, table.body = .query inner → P inner)
    (fun _ _ _ _ _ _ _ _ _ _ _ _ _ common => step _ common)
    (fun _ _ _ _ body => body)
    (fun _ hq _ h => TableBody.query.inj h ▸ hq)
    (fun _ _ h => nomatch h)
    (List.forall_mem_nil _)
    (fun _ _ first rest => List.forall_mem_cons.mpr ⟨first, rest⟩) q

end Query

variable {options : Options}

theorem CommonTable.compileAll_eq (options : Options) (tables : List CommonTable) :
    CommonTable.compileAll options tables = tables.mapM (CommonTable.compile options) := by
  induction tables with
  | nil => rfl
  | cons table rest ih => rw [CommonTable.compileAll, List.mapM_cons, ih]

theorem TableBody.compile_raw_ok {name sql : String} {part : Statement} :
    (TableBody.raw sql).compile options name = .ok part ↔
      ∃ text, Text.content? (some sql) = some text ∧ .raw text = part := by
  rw [TableBody.compile]
  cases Text.content? (some sql) <;> simp

theorem CommonTable.compile_ok {table : CommonTable} {entry : Statement} :
    table.compile options = .ok entry ↔ Name.isIdentifier table.name.toList ∧
      (∀ column ∈ table.columns, Name.isIdentifier column.toList) ∧
      ∃ body, table.body.compile options table.name = .ok body ∧
        .raw (table.name ++ (if table.columns.isEmpty then ""
          else " (" ++ ", ".intercalate table.columns ++ ")") ++ " AS (") ++ body ++ .raw ")" =
          entry := by
  obtain ⟨name, columns, body, recursive⟩ := table
  simp only [CommonTable.compile, bind_ok, Name.checkIdentifier_ok, Name.checkIdentifiers_ok,
    pure_ok, exists_const]

namespace Query

theorem compile_eq (options : Options) (q : Query) :
    q.compile options = do
      let entries ← q.common.mapM (CommonTable.compile options)
      let body ← q.body
      return preambleOf q.common q.preamble entries ++ body ++ .raw (q.tail options) := by
  cases q
  rw [Query.compile, CommonTable.compileAll_eq]

theorem compile_ok {q : Query} {s : Statement} :
    q.compile options = .ok s ↔ ∃ entries,
      List.Forall₂ (fun table entry => table.compile options = .ok entry) q.common entries ∧
      ∃ body, q.body = .ok body ∧
        preambleOf q.common q.preamble entries ++ body ++ .raw (q.tail options) = s := by
  simp only [compile_eq, bind_ok, mapM_ok, pure_ok]

theorem compileCount_ok {q : Query} {s : Statement} :
    q.compileCount options = .ok s ↔ ∃ entries,
      List.Forall₂ (fun table entry => table.compile options = .ok entry) q.common entries ∧
      if q.distinct || !q.groupBy.isEmpty then
        ∃ body, q.body = .ok body ∧ preambleOf q.common q.preamble entries ++
          .raw "SELECT COUNT(*) FROM (" ++ body ++ .raw ") AS counted" = s
      else
        ∃ source, q.sourceClause = .ok source ∧
          preambleOf q.common q.preamble entries ++ .raw "SELECT COUNT(*)" ++ source = s := by
  simp only [compileCount, CommonTable.compileAll_eq, bind_ok, mapM_ok]
  split <;> simp only [bind_ok, pure_ok]

theorem body_ok {q : Query} {body : Statement} :
    q.body = .ok body ↔ ∃ source, q.sourceClause = .ok source ∧
      .raw q.head ++ source ++ .raw q.grouping = body := by
  simp only [Query.body, bind_ok, pure_ok]

theorem sourceClause_ok {q : Query} {source : Statement} :
    q.sourceClause = .ok source ↔ Name.isIdentifier q.source.toList ∧
      (∀ name ∈ q.label, Name.isIdentifier name.toList) ∧
      ∃ joins, joinTexts q.joins = .ok joins ∧
      ∃ filter, Condition.whereClause q.filter = .ok filter ∧
        .raw (" FROM " ++ q.source ++ Join.aliasText q.label ++ joins) ++ filter = source := by
  simp only [sourceClause, bind_ok, Name.checkTable_ok, Name.checkOptional_ok, pure_ok,
    exists_const]

end Query

theorem Join.compile_ok {j : Join} {text : String} :
    j.compile = .ok text ↔ Name.isIdentifier j.table.toList ∧
      (∀ name ∈ j.label, Name.isIdentifier name.toList) ∧
      if j.kind = .cross then j.kind.sql ++ " JOIN " ++ j.table ++ aliasText j.label = text
      else ∃ on, Text.content? j.on = some on ∧
        j.kind.sql ++ " JOIN " ++ j.table ++ aliasText j.label ++ " ON " ++ on = text := by
  simp only [Join.compile, bind_ok, Name.checkTable_ok, Name.checkOptional_ok, exists_const]
  split
  · rw [pure_ok]
  · cases Text.content? j.on <;> simp [pure_ok, throw_ok]

end BoundSql
