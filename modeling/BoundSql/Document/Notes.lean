import BoundSql.Document.Basic
import BoundSql.Log

/-! What is noted when a document has become statements. -/
namespace BoundSql

/-- A note for those who look for faults in the finest detail. -/
def tracing (message : String) (details : List (String × Detail)) : Note :=
  ⟨.trace, message, details⟩

mutual

/-- The notes on a query: one on it, one on its common tables if it has some, and then those on
the queries in them. -/
def Query.notes : Query → List Note
  | ⟨_, _, source, _, joins, _, _, _, _, _, _, common, _⟩ =>
    tracing "compiling select" [("table", .text source), ("joins", .number joins.length),
        ("ctes", .number common.length)] ::
      (if common.isEmpty then [] else
        [tracing "compiling WITH clause" [("count", .number common.length)]]) ++
      CommonTable.notesAll common

def CommonTable.notes : CommonTable → List Note
  | ⟨_, _, body, _⟩ => body.notes

def TableBody.notes : TableBody → List Note
  | .query q => q.notes
  | .raw _ => []

def CommonTable.notesAll : List CommonTable → List Note
  | [] => []
  | t :: rest => t.notes ++ CommonTable.notesAll rest

end

def Document.notes (statements : List Statement) : Document → List Note
  | .select table _ => [tracing "compiling simple select" [("table", .text table)]]
  | .query q => q.notes
  | .insert i =>
    [⟨.debug, "compiled batch insert", [("table", .text ((i.rows.head?.map (·.table)).getD "")),
      ("rows", .number i.rows.length), ("batches", .number statements.length)]⟩]
  | .update u =>
    [tracing "compiled update" [("table", .text u.table),
      ("args", .number (statements.flatMap (·.args)).length)]]
  | .delete _ => []

end BoundSql
