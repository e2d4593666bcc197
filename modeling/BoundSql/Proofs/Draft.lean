import BoundSql.Change.Update
import BoundSql.Proofs.Query
import BoundSql.Query.TableSelect

/-! Everything that a single statement is compiled from, and the texts that it hands on as they
are. -/
namespace BoundSql
open Outcome

mutual

/-- The texts of a query that are taken as they are, those of its common tables included. -/
def Query.rawTexts : Query → List String
  | ⟨fields, _, _, _, joins, _, groupBy, having, orderBy, _, _, common, preamble⟩ =>
    fields ++ joins.filterMap Join.on ++ groupBy ++ having.toList ++ orderBy ++
      preamble.toList ++ CommonTable.rawTextsAll common

def CommonTable.rawTexts : CommonTable → List String
  | ⟨_, _, body, _⟩ => body.rawTexts

def TableBody.rawTexts : TableBody → List String
  | .query q => q.rawTexts
  | .raw sql => [sql]

def CommonTable.rawTextsAll : List CommonTable → List String
  | [] => []
  | table :: rest => table.rawTexts ++ CommonTable.rawTextsAll rest

end

theorem CommonTable.rawTextsAll_eq (tables : List CommonTable) :
    CommonTable.rawTextsAll tables = tables.flatMap CommonTable.rawTexts := by
  induction tables with
  | nil => rfl
  | cons table rest ih => rw [CommonTable.rawTextsAll, ih, List.flatMap_cons]

theorem Query.rawTexts_eq (q : Query) :
    q.rawTexts = q.fields ++ q.joins.filterMap Join.on ++ q.groupBy ++ q.having.toList ++
      q.orderBy ++ q.preamble.toList ++ q.common.flatMap CommonTable.rawTexts := by
  cases q
  rw [Query.rawTexts, CommonTable.rawTextsAll_eq]

section Texts
variable {P : String → Prop}

/-- That the texts of a query that are taken as they are have a property, those of its common
tables apart. -/
structure Query.OwnTexts (P : String → Prop) (q : Query) : Prop where
  fields : ∀ term ∈ q.fields, P term
  on : ∀ given ∈ q.joins.filterMap Join.on, P given
  groupBy : ∀ term ∈ q.groupBy, P term
  having : ∀ given ∈ q.having, P given
  orderBy : ∀ term ∈ q.orderBy, P term
  preamble : ∀ given ∈ q.preamble, P given

theorem Query.ownTexts {q : Query} (all : ∀ text ∈ q.rawTexts, P text) :
    q.OwnTexts P ∧ ∀ table ∈ q.common, ∀ text ∈ table.rawTexts, P text := by
  simp only [rawTexts_eq, List.forall_mem_append, List.forall_mem_flatMap,
    Option.mem_toList] at all
  obtain ⟨⟨⟨⟨⟨⟨fields, on⟩, groupBy⟩, having⟩, orderBy⟩, preamble⟩, common⟩ := all
  exact ⟨⟨fields, on, groupBy, having, orderBy, preamble⟩, common⟩

theorem Join.forall_on_cons {j : Join} {rest : List Join} :
    (∀ given ∈ (j :: rest).filterMap Join.on, P given) ↔
      (∀ given ∈ j.on, P given) ∧ ∀ given ∈ rest.filterMap Join.on, P given := by
  cases on : j.on with
  | none => simp [on]
  | some text => simp [on]

end Texts

/-- What one statement is compiled from. -/
inductive Draft where
  | select (table : String) (s : TableSelect)
  | query (q : Query)
  | count (q : Query)
  | update (u : Update)
  | delete (d : Deletion)

namespace Draft

def compile (options : Options) : Draft → Except Fault Statement
  | select table s => s.compile options table
  | query q => q.compile options
  | count q => q.compileCount options
  | update u => u.compile
  | delete d => d.compile

/-- The texts of a draft that are taken as they are. -/
def rawTexts : Draft → List String
  | select _ s => s.groupBy.toList ++ s.orderBy.toList
  | query q => q.rawTexts
  | count q => q.rawTexts
  | update _ => []
  | delete _ => []

end Draft

theorem TableSelect.compile_ok {options : Options} {table : String} {s : TableSelect}
    {whole : Statement} :
    s.compile options table = .ok whole ↔ Name.isIdentifier table.toList ∧
      ∃ filter, Condition.whereClause s.filter = .ok filter ∧
        .raw ("SELECT * FROM " ++ table) ++ filter ++
          .raw (Query.textClause "GROUP BY" s.groupBy ++ Query.textClause "ORDER BY" s.orderBy ++
            (Page.mk s.limit s.offset).clause options.pageSize) = whole := by
  simp only [TableSelect.compile, bind_ok, Name.checkTable_ok, pure_ok, exists_const]

theorem Update.compile_ok {u : Update} {whole : Statement} :
    u.compile = .ok whole ↔ Name.isIdentifier u.table.toList ∧ u.assignments ≠ [] ∧
      (∀ assignment ∈ u.assignments, Name.isIdentifier assignment.1.toList) ∧
      ∃ filter, Condition.whereClause u.filter = .ok filter ∧
        ⟨"UPDATE " ++ u.table ++ " SET " ++
          ", ".intercalate (u.assignments.map fun a => a.1 ++ " = ?"),
          u.assignments.map (·.2)⟩ ++ filter = whole := by
  simp only [Update.compile, bind_ok, guard_ok, Name.checkTable_ok, Name.checkIdentifiers_ok,
    pure_ok, exists_const, List.forall_mem_map, List.isEmpty_iff, ne_eq]

theorem Deletion.compile_ok {d : Deletion} {whole : Statement} :
    d.compile = .ok whole ↔ Name.isIdentifier d.table.toList ∧
      ∃ filter, Condition.whereClause d.filter = .ok filter ∧
        .raw ("DELETE FROM " ++ d.table) ++ filter = whole := by
  simp only [Deletion.compile, bind_ok, Name.checkTable_ok, pure_ok, exists_const]

end BoundSql
