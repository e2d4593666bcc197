import BoundSql.Data.Json.Reader
import BoundSql.Data.Toml.Reader
import BoundSql.Document.Basic
import BoundSql.Shape.Change
import BoundSql.Shape.Selection
import BoundSql.Storage.Path

/-! The text of a document, in one of two formats. It holds a single key, which tells the kind of
the document. -/
namespace BoundSql

inductive Format where
  | json
  | toml
deriving DecidableEq

namespace Format

/-- The format of the file at a path, TOML only where the extension says so. -/
def ofPath (path : String) : Format :=
  if (Path.extension? path).any (Text.sameLetters · "toml") then toml else json

def dialect : Format → Shape.Dialect
  | json => .json
  | toml => .toml

def read? : Format → String → Option Node
  | json => Json.read?
  | toml => Toml.read?

end Format

namespace Shape

/-- Reads an insertion: its rows, and what is done about a conflict. -/
def insert? (d : Dialect) (n : Node) : Option Insert :=
  match fields? d.spareElements [["rows"], ["on_conflict"]] n with
  | some [rows, conflict] => do
    return {
      rows := ← required (listOf (row? d)) rows
      conflict := ← optional (conflict? d) conflict }
  | _ => none

def document? (d : Dialect) (n : Node) : Option Document :=
  match variant? n with
  | some ("select", some content) =>
    (namedSelect? d content).map fun (table, s) => .select table s
  | some ("query", some content) => (query? d content).map .query
  | some ("insert", some content) => (insert? d content).map .insert
  | some ("update", some content) => (update? d content).map .update
  | some ("delete", some content) => (deletion? d content).map .delete
  | _ => none

end Shape

def Document.read? (format : Format) (text : String) : Option Document :=
  (format.read? text).bind (Shape.document? format.dialect)

end BoundSql
