import BoundSql.Change.Insert
import BoundSql.Change.Update
import BoundSql.Query.TableSelect

/-! Documents, each of which describes one thing to be done with a database. -/
namespace BoundSql

inductive Document where
  | select (table : String) (s : TableSelect)
  | query (q : Query)
  | insert (i : Insert)
  | update (u : Update)
  | delete (d : Deletion)

namespace Document

/-- The key under which a document of this kind is written. -/
def kind : Document → String
  | select _ _ => "select"
  | query _ => "query"
  | insert _ => "insert"
  | update _ => "update"
  | delete _ => "delete"

/-- The statements of a document: one, or one for each batch of an insertion. -/
def compile (options : Options) : Document → Except Fault (List Statement)
  | select table s => do return [← s.compile options table]
  | query q => do return [← q.compile options]
  | insert i => i.compile options
  | update u => do return [← u.compile]
  | delete d => do return [← d.compile]

end Document
end BoundSql
