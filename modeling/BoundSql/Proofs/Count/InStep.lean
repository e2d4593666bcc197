import BoundSql.Proofs.Query

/-! A query and its count in step. They fail together, and otherwise have the same WITH clause, the
same source and the same arguments. -/
namespace BoundSql
open Outcome

namespace Query
variable {options : Options} {q : Query}

/-- What may stand before a query: the WITH clause of its common tables, or else its own WITH text,
which gets the keyword if it lacks it, or nothing. -/
inductive Preamble (options : Options) (q : Query) : Statement → Prop
  | tables {keyword : String} {entries : List Statement}
      (each : List.Forall₂ (fun table entry => table.compile options = .ok entry) q.common entries)
      (present : q.common ≠ []) (spelled : keyword ∈ ["WITH ", "WITH RECURSIVE "]) :
      Preamble options q (.raw keyword ++ .joined ", " entries ++ .raw " ")
  | text {keyword text : String} (bare : q.common = [])
      (given : Text.content? q.preamble = some text) (spelled : keyword ∈ ["", "WITH "]) :
      Preamble options q (.raw (keyword ++ text ++ " "))
  | absent (bare : q.common = []) (absent : Text.content? q.preamble = none) :
      Preamble options q (.raw "")

/-- The head of a selection: the keyword, with another one if rows are made distinct, and behind it
the fields with commas between them, or a star for all of them. -/
inductive Head (q : Query) : String → Prop
  | fields {keyword : String} (spelled : q.distinct = false ∧ keyword = "SELECT " ∨
      q.distinct = true ∧ keyword = "SELECT DISTINCT ") (listed : q.fields ≠ []) :
      Head q (keyword ++ ", ".intercalate q.fields)
  | all {keyword : String} (spelled : q.distinct = false ∧ keyword = "SELECT " ∨
      q.distinct = true ∧ keyword = "SELECT DISTINCT ") (bare : q.fields = []) :
      Head q (keyword ++ "*")

/-- The source of a query: its table under its alias, the joins in turn, and a WHERE clause if there
is something to filter. -/
inductive Source (q : Query) : Statement → Prop
  | clauses {joins : List String} {filter : Statement}
      (each : List.Forall₂ (fun j text => j.compile = .ok text) q.joins joins)
      (clause : Condition.whereClause q.filter = .ok filter)
      (shown : filter = .raw "" ∨ ∃ fragment, filter = .raw " WHERE " ++ fragment) :
      Source q (.raw (" FROM " ++ q.source ++ Join.aliasText q.label ++
        String.join (joins.map (" " ++ ·))) ++ filter)

theorem head_head (q : Query) : q.Head q.head := by
  have spelled : q.distinct = false ∧ (if q.distinct then "SELECT DISTINCT " else "SELECT ") =
      "SELECT " ∨ q.distinct = true ∧
        (if q.distinct then "SELECT DISTINCT " else "SELECT ") = "SELECT DISTINCT " := by
    cases q.distinct with
    | false => exact .inl ⟨rfl, rfl⟩
    | true => exact .inr ⟨rfl, rfl⟩
  unfold head
  by_cases bare : q.fields = []
  · rw [if_pos (List.isEmpty_iff.mpr bare)]
    exact .all spelled bare
  · rw [if_neg (mt List.isEmpty_iff.mp bare)]
    exact .fields spelled bare

theorem preamble_preambleOf {entries : List Statement}
    (each : List.Forall₂ (fun table entry => table.compile options = .ok entry) q.common entries) :
    q.Preamble options (preambleOf q.common q.preamble entries) := by
  by_cases bare : q.common = []
  · rw [preambleOf, bare, List.isEmpty_nil, if_pos rfl, rawPreamble]
    cases content : Text.content? q.preamble with
    | none => exact .absent bare content
    | some text =>
        refine .text bare content ?_
        split <;> simp
  · have listed : entries ≠ [] := by
      rintro rfl
      exact bare (List.forall₂_nil_right_iff.mp each)
    rw [preambleOf, CommonTable.clauseOf, List.isEmpty_eq_false_iff.mpr bare,
      List.isEmpty_eq_false_iff.mpr listed, if_neg (by decide), if_neg (by decide)]
    refine .tables each bare ?_
    split <;> simp

theorem joinTexts_ok {joins : List Join} {text : String} :
    joinTexts joins = .ok text ↔ ∃ texts,
      List.Forall₂ (fun j t => j.compile = .ok t) joins texts ∧
        String.join (texts.map (" " ++ ·)) = text := by
  induction joins generalizing text with
  | nil =>
      simp only [joinTexts, List.forall₂_nil_left_iff, exists_eq_left, Except.ok.injEq]
      rfl
  | cons j rest ih =>
      simp only [joinTexts, bind_ok, pure_ok, ih, List.forall₂_cons_left_iff]
      constructor
      · rintro ⟨first, compiled, _, ⟨texts, each, rfl⟩, rfl⟩
        exact ⟨first :: texts, ⟨first, texts, compiled, each, rfl⟩, String.join_cons ..⟩
      · rintro ⟨_, ⟨first, texts, compiled, each, rfl⟩, rfl⟩
        exact ⟨first, compiled, _, ⟨texts, each, rfl⟩, (String.join_cons ..).symm⟩

theorem source_sourceClause {source : Statement} (h : q.sourceClause = .ok source) :
    q.Source source := by
  obtain ⟨-, -, joins, texts, filter, clause, rfl⟩ := sourceClause_ok.mp h
  obtain ⟨texts, each, rfl⟩ := joinTexts_ok.mp texts
  refine .clauses each clause ?_
  obtain ⟨-, nothing⟩ | ⟨-, fragment, -, -, shown⟩ := Condition.whereClause_ok clause
  · exact .inl nothing
  · exact .inr ⟨fragment, shown⟩

/-- The texts around the source in a count. -/
def countEnds (q : Query) : String × String :=
  if q.distinct || !q.groupBy.isEmpty then
    ("SELECT COUNT(*) FROM (" ++ q.head, q.grouping ++ ") AS counted")
  else ("SELECT COUNT(*)", "")

theorem compile_split (options : Options) (q : Query) :
    q.compile options = do
      let entries ← q.common.mapM (CommonTable.compile options)
      let source ← q.sourceClause
      return preambleOf q.common q.preamble entries ++ .raw q.head ++ source ++
        .raw (q.grouping ++ q.tail options) := by
  rw [compile_eq, body]
  cases q.common.mapM (CommonTable.compile options) with
  | error fault => rfl
  | ok entries =>
      cases q.sourceClause with
      | error fault => rfl
      | ok source =>
          refine congrArg Except.ok ?_
          simp [Statement.ext_iff, String.append_assoc]

theorem compileCount_split (options : Options) (q : Query) :
    q.compileCount options = do
      let entries ← q.common.mapM (CommonTable.compile options)
      let source ← q.sourceClause
      return preambleOf q.common q.preamble entries ++ .raw q.countEnds.1 ++ source ++
        .raw q.countEnds.2 := by
  rw [compileCount, CommonTable.compileAll_eq, body, countEnds]
  cases q.common.mapM (CommonTable.compile options) with
  | error fault => rfl
  | ok entries =>
      cases q.sourceClause with
      | error fault => split <;> rfl
      | ok source =>
          split <;> refine congrArg Except.ok ?_ <;>
            simp [Statement.ext_iff, String.append_assoc]

/-- A query and its count fail with the same fault, or both compile. Then they have the same
arguments, and the same texts before the head and in the source. The head is in the count too, where
the rows of the selection are counted, as they are if they are grouped or made distinct. The texts
after the source bind nothing. -/
theorem compile_in_step (options : Options) (q : Query) :
    (∃ fault, q.compile options = .error fault ∧ q.compileCount options = .error fault) ∨
      ∃ preamble head source s n, q.Preamble options preamble ∧ q.Head head ∧ q.Source source ∧
        q.compile options = .ok s ∧ q.compileCount options = .ok n ∧ s.args = n.args ∧
        s = preamble ++ .raw head ++ source ++ .raw (q.grouping ++ q.tail options) ∧
        (q.distinct = false ∧ q.groupBy = [] ∧
            n = preamble ++ .raw "SELECT COUNT(*)" ++ source ++ .raw "" ∨
          (q.distinct = true ∨ q.groupBy ≠ []) ∧
            n = preamble ++ .raw ("SELECT COUNT(*) FROM (" ++ head) ++ source ++
              .raw (q.grouping ++ ") AS counted")) := by
  rw [compile_split, compileCount_split]
  cases tables : q.common.mapM (CommonTable.compile options) with
  | error fault => exact .inl ⟨fault, rfl, rfl⟩
  | ok entries =>
      cases clause : q.sourceClause with
      | error fault => exact .inl ⟨fault, rfl, rfl⟩
      | ok source =>
          refine .inr ⟨_, _, source, _, _, preamble_preambleOf (mapM_ok.mp tables), q.head_head,
            source_sourceClause clause, rfl, rfl, by simp, rfl, ?_⟩
          rw [countEnds]
          split
          · rename_i covered
            exact .inr ⟨by simpa using covered, rfl⟩
          · rename_i plain
            obtain ⟨distinct, groupBy⟩ := not_or.mp (mt Bool.or_eq_true_iff.mpr plain)
            exact .inl ⟨by simpa using distinct, by simpa using groupBy, rfl⟩

/-- Distinct pairs of fields, from a table that is joined to one that the query defines. -/
def ofBuyers : Query where
  source := "users"
  label := some "u"
  fields := ["u.id", "o.state"]
  distinct := true
  joins := [{ table := "orders", label := some "o", on := some "o.user_id = u.id" }]
  filter := some (.leaf "u.age" ">=" (.integer 18))
  orderBy := ["u.id"]
  limit := some 5
  common :=
    [{ name := "orders"
       body := .query
        { source := "purchases"
          filter := some (.leaf "paid" "=" (.bool true)) } }]

set_option maxRecDepth 100000 in
theorem compile_in_step_ofBuyers :
    ∃ head s n, ofBuyers.Head head ∧ ofBuyers.compile {} = .ok s ∧
      ofBuyers.compileCount {} = .ok n ∧ s.args = n.args ∧ s.args = [.bool true, .integer 18] ∧
      head = "SELECT DISTINCT u.id, o.state" ∧
      s.sql = "WITH orders AS (SELECT * FROM purchases WHERE paid = ?) " ++ head ++
        " FROM users AS u INNER JOIN orders AS o ON o.user_id = u.id WHERE u.age >= ? " ++
        "ORDER BY u.id LIMIT 5" ∧
      n.sql = "WITH orders AS (SELECT * FROM purchases WHERE paid = ?) SELECT COUNT(*) FROM (" ++
        head ++ " FROM users AS u INNER JOIN orders AS o ON o.user_id = u.id " ++
        "WHERE u.age >= ?) AS counted" := by
  have compiled : ofBuyers.compile {} = .ok
      ⟨"WITH orders AS (SELECT * FROM purchases WHERE paid = ?) " ++
        "SELECT DISTINCT u.id, o.state FROM users AS u INNER JOIN orders AS o " ++
        "ON o.user_id = u.id WHERE u.age >= ? ORDER BY u.id LIMIT 5",
        [.bool true, .integer 18]⟩ := by rfl
  have counted : ofBuyers.compileCount {} = .ok
      ⟨"WITH orders AS (SELECT * FROM purchases WHERE paid = ?) " ++
        "SELECT COUNT(*) FROM (SELECT DISTINCT u.id, o.state FROM users AS u " ++
        "INNER JOIN orders AS o ON o.user_id = u.id WHERE u.age >= ?) AS counted",
        [.bool true, .integer 18]⟩ := by rfl
  obtain ⟨fault, fails, -⟩ | ⟨preamble, head, source, s, n, -, spells, -, made, made', same, -⟩ :=
    compile_in_step {} ofBuyers
  · rw [compiled] at fails
    cases fails
  · cases compiled.symm.trans made
    cases counted.symm.trans made'
    have selects : head = "SELECT DISTINCT u.id, o.state" := by
      cases spells with
      | fields spelled listed =>
          obtain ⟨plain, -⟩ | ⟨-, rfl⟩ := spelled
          · cases plain
          · rfl
      | all spelled bare => cases bare
    refine ⟨head, _, _, spells, compiled, counted, same, rfl, selects, ?_, ?_⟩
    · rw [selects]
      rfl
    · rw [selects]
      rfl

end Query
end BoundSql
