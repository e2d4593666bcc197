import BoundSql.Proofs.Count.InStep

/-! The count of a query beside the query itself. Both stand behind the same WITH clause and have
the same source; what they make of the source tells whether the count is one of the rows. -/
namespace BoundSql
open Outcome

namespace Query
variable {options : Options} {q : Query} {s n : Statement}

/-- The query without order and page, over a given source. -/
def selection (q : Query) (source : Statement) : Statement :=
  .raw q.head ++ source ++ .raw q.grouping

theorem compile_parts :
    q.compile options = .ok s ↔ ∃ entries source,
      CommonTable.compileAll options q.common = .ok entries ∧ q.sourceClause = .ok source ∧
        preambleOf q.common q.preamble entries ++ q.selection source ++ .raw (q.tail options) =
          s := by
  have around : ∀ preamble source : Statement,
      preamble ++ .raw q.head ++ source ++ .raw (q.grouping ++ q.tail options) =
        preamble ++ q.selection source ++ .raw (q.tail options) := fun preamble source => by
    simp [selection, Statement.ext_iff, String.append_assoc]
  simp only [compile_split, around, ← CommonTable.compileAll_eq, bind_ok, pure_ok, exists_and_left]

theorem compileCount_parts :
    q.compileCount options = .ok n ↔ ∃ entries source,
      CommonTable.compileAll options q.common = .ok entries ∧ q.sourceClause = .ok source ∧
        preambleOf q.common q.preamble entries ++
          (if q.distinct || !q.groupBy.isEmpty then
            .raw "SELECT COUNT(*) FROM (" ++ q.selection source ++ .raw ") AS counted"
          else .raw "SELECT COUNT(*)" ++ source) = n := by
  have around : ∀ preamble source : Statement,
      preamble ++ .raw q.countEnds.1 ++ source ++ .raw q.countEnds.2 =
        preamble ++
          (if q.distinct || !q.groupBy.isEmpty then
            .raw "SELECT COUNT(*) FROM (" ++ q.selection source ++ .raw ") AS counted"
          else .raw "SELECT COUNT(*)" ++ source) := fun preamble source => by
    rw [countEnds]
    split <;> simp [selection, Statement.ext_iff, String.append_assoc]
  simp only [compileCount_split, around, ← CommonTable.compileAll_eq, bind_ok, pure_ok,
    exists_and_left]

/-- Whether every row of the source is a row of the query. -/
def KeepsRows (q : Query) : Prop :=
  q.distinct = false ∧ q.groupBy = [] ∧ Text.content? q.having = none

/-- That a statement counts the rows of a query that compiles to another: behind the same WITH
clause it counts the rows of the whole selection, or those of the source when these are the same. -/
def Counts (options : Options) (q : Query) (s n : Statement) : Prop :=
  ∃ entries source, CommonTable.compileAll options q.common = .ok entries ∧
    q.sourceClause = .ok source ∧
    s = preambleOf q.common q.preamble entries ++ q.selection source ++ .raw (q.tail options) ∧
    (n = preambleOf q.common q.preamble entries ++
        (.raw "SELECT COUNT(*) FROM (" ++ q.selection source ++ .raw ") AS counted") ∨
      n = preambleOf q.common q.preamble entries ++ (.raw "SELECT COUNT(*)" ++ source) ∧
        q.KeepsRows)

/-- A source begins with the name of a table, so it is no selection in parentheses. -/
theorem source_ne_nested {source : Statement} (h : q.sourceClause = .ok source)
    (part : Statement) : .raw "SELECT COUNT(*)" ++ source ≠
      .raw "SELECT COUNT(*) FROM (" ++ part ++ .raw ") AS counted" := by
  obtain ⟨table, -, joins, -, filter, -, rfl⟩ := sourceClause_ok.mp h
  intro same
  have texts := congrArg (fun s => s.sql.toList) same
  cases name : q.source.toList with
  | nil => exact Name.ne_nil_of_isIdentifier table name
  | cons c rest =>
      have first := Name.following_of_isIdentifier table c (name ▸ List.mem_cons_self)
      simp [name] at texts
      rw [texts.1] at first
      revert first
      decide

theorem counts_of_grouped (compiled : q.compile options = .ok s)
    (counted : q.compileCount options = .ok n)
    (covered : q.distinct = true ∨ q.groupBy ≠ [] ∨ Text.content? q.having = none) :
    q.Counts options s n := by
  obtain ⟨entries, source, hentries, hsource, rfl⟩ := compile_parts.mp compiled
  obtain ⟨entries', source', hentries', hsource', rfl⟩ := compileCount_parts.mp counted
  cases hentries.symm.trans hentries'
  cases hsource.symm.trans hsource'
  refine ⟨entries, source, hentries, hsource, rfl, ?_⟩
  split
  · exact .inl rfl
  · rename_i short
    simp only [Bool.or_eq_true, Bool.not_eq_true', List.isEmpty_eq_false_iff, not_or,
      Bool.not_eq_true, ne_eq, not_not] at short
    refine .inr ⟨rfl, short.1, short.2, ?_⟩
    obtain distinct | grouped | having := covered
    · rw [short.1] at distinct
      cases distinct
    · exact absurd short.2 grouped
    · exact having

/-- The rows of the source are counted also where only HAVING tells which of them are left. -/
theorem not_counts_of_having (counted : q.compileCount options = .ok n)
    (distinct : q.distinct = false) (groupBy : q.groupBy = [])
    (having : Text.content? q.having ≠ none) : ¬ q.Counts options s n := by
  obtain ⟨entries, source, hentries, hsource, rfl⟩ := compileCount_parts.mp counted
  rw [if_neg (by simp [distinct, groupBy])]
  rintro ⟨entries', source', hentries', hsource', -, wrapped | ⟨-, kept⟩⟩
  · cases hentries.symm.trans hentries'
    refine source_ne_nested hsource (q.selection source') ?_
    simp only [Statement.ext_iff, Statement.sql_append, Statement.args_append,
      String.append_right_inj, List.append_cancel_left_eq] at wrapped ⊢
    exact wrapped
  · exact having kept.2.2

/-- A count is one of the rows that the query returns exactly when rows are made distinct or
grouped, or nothing is asked of them after grouping. -/
theorem counts_iff (options : Options) (q : Query) (s n : Statement)
    (compiled : q.compile options = .ok s) (counted : q.compileCount options = .ok n) :
    q.Counts options s n ↔
      q.distinct = true ∨ q.groupBy ≠ [] ∨ Text.content? q.having = none := by
  refine ⟨fun counts => ?_, counts_of_grouped compiled counted⟩
  by_contra uncovered
  simp only [not_or, Bool.not_eq_true, ne_eq, not_not] at uncovered
  exact not_counts_of_having counted uncovered.1 uncovered.2.1 uncovered.2.2 counts

/-- Groups of rows behind a common table, with a filter, an order and a page. -/
def ofActive : Query where
  source := "active"
  fields := ["role", "COUNT(*) AS n"]
  filter := some (.leaf "age" ">" (.integer 18))
  groupBy := ["role"]
  having := some " n > 1 "
  orderBy := ["n"]
  limit := some 5
  common := [{ name := "active", body := .raw "SELECT * FROM users" }]

set_option maxRecDepth 100000 in
theorem counts_ofActive :
    ∃ s n, ofActive.compile {} = .ok s ∧ ofActive.compileCount {} = .ok n ∧
      n.sql = "WITH active AS (SELECT * FROM users) SELECT COUNT(*) FROM (SELECT role, " ++
        "COUNT(*) AS n FROM active WHERE age > ? GROUP BY role HAVING n > 1) AS counted" ∧
      ofActive.Counts {} s n := by
  have compiled : ofActive.compile {} = .ok ⟨"WITH active AS (SELECT * FROM users) SELECT role, " ++
      "COUNT(*) AS n FROM active WHERE age > ? GROUP BY role HAVING n > 1 ORDER BY n LIMIT 5",
      [.integer 18]⟩ := by rfl
  have counted : ofActive.compileCount {} = .ok ⟨"WITH active AS (SELECT * FROM users) " ++
      "SELECT COUNT(*) FROM (SELECT role, COUNT(*) AS n FROM active WHERE age > ? " ++
      "GROUP BY role HAVING n > 1) AS counted", [.integer 18]⟩ := by rfl
  have grouped : ofActive.groupBy ≠ [] := by decide
  exact ⟨_, _, compiled, counted, rfl,
    (counts_iff {} ofActive _ _ compiled counted).mpr (.inr (.inl grouped))⟩

/-- All rows of a table, in one group that HAVING may leave out. -/
def ofMany : Query where
  source := "users"
  fields := ["COUNT(*) AS n"]
  having := some "COUNT(*) > 5"

set_option maxRecDepth 100000 in
/-- The query has one row at most, and its count is the number of rows of the table. -/
theorem ofMany_miscounted :
    ∃ s n, ofMany.compile {} = .ok s ∧ ofMany.compileCount {} = .ok n ∧
      s.sql = "SELECT COUNT(*) AS n FROM users HAVING COUNT(*) > 5" ∧
      n.sql = "SELECT COUNT(*) FROM users" ∧ ¬ ofMany.Counts {} s n := by
  have compiled : ofMany.compile {} =
      .ok ⟨"SELECT COUNT(*) AS n FROM users HAVING COUNT(*) > 5", []⟩ := by rfl
  have counted : ofMany.compileCount {} = .ok ⟨"SELECT COUNT(*) FROM users", []⟩ := by rfl
  exact ⟨_, _, compiled, counted, rfl, rfl, not_counts_of_having counted rfl rfl (by decide)⟩

end Query
end BoundSql
