import BoundSql.Condition.Where
import BoundSql.Options
import BoundSql.Query.Basic

/-! Queries as statements, both the query itself and the query for the number of its rows. The
clauses come in a fixed order, and so do the arguments: first those of the common tables, then
those of the filter. -/
namespace BoundSql

namespace Query

/-- The texts of joins, each after a space. -/
def joinTexts : List Join → Except Fault String
  | [] => .ok ""
  | j :: rest => do
    let text ← j.compile
    let later ← joinTexts rest
    return " " ++ text ++ later

/-- The FROM clause with its joins and the WHERE clause. -/
def sourceClause (q : Query) : Except Fault Statement := do
  Name.checkTable q.source
  Name.checkOptional q.label
  let joins ← joinTexts q.joins
  let filter ← Condition.whereClause q.filter
  return .raw (" FROM " ++ q.source ++ Join.aliasText q.label ++ joins) ++ filter

def head (q : Query) : String :=
  (if q.distinct then "SELECT DISTINCT " else "SELECT ") ++
    if q.fields.isEmpty then "*" else ", ".intercalate q.fields

/-- A keyword and the terms after it, if there are terms. -/
def listClause (keyword : String) (terms : List String) : String :=
  if terms.isEmpty then "" else " " ++ keyword ++ " " ++ ", ".intercalate terms

/-- A keyword and a text after it, if the text is there and not blank. -/
def textClause (keyword : String) (text : Option String) : String :=
  match Text.content? text with
  | none => ""
  | some text => " " ++ keyword ++ " " ++ text

def grouping (q : Query) : String :=
  listClause "GROUP BY" q.groupBy ++ textClause "HAVING" q.having

/-- The query without its common tables, its order and its page. -/
def body (q : Query) : Except Fault Statement := do
  let source ← q.sourceClause
  return .raw q.head ++ source ++ .raw q.grouping

def tail (q : Query) (options : Options) : String :=
  listClause "ORDER BY" q.orderBy ++ q.page.clause options.pageSize

/-- Whether a text begins with the keyword WITH, in any case, and a space after it. -/
def beginsWith (text : String) : Bool :=
  Text.sameLetters (String.ofList (text.toList.take 5)) "WITH "

/-- A given WITH clause and a space, the keyword in front unless the text has it. -/
def rawPreamble (preamble : Option String) : String :=
  match Text.content? preamble with
  | none => ""
  | some text => (if beginsWith text then "" else "WITH ") ++ text ++ " "

end Query

/-- Whether a WITH clause is recursive as a whole: some table of it is. -/
def CommonTable.anyRecursive (tables : List CommonTable) : Bool := tables.any (·.recursive)

/-- The WITH clause of common tables from their texts, empty when there are none. -/
def CommonTable.clauseOf (recursive : Bool) (entries : List Statement) : Statement :=
  if entries.isEmpty then .raw ""
  else .raw (if recursive then "WITH RECURSIVE " else "WITH ") ++ .joined ", " entries

/-- What stands before a query: the WITH clause of its common tables, given their entries, or
else its given text. -/
def Query.preambleOf (common : List CommonTable) (preamble : Option String)
    (entries : List Statement) : Statement :=
  if common.isEmpty then .raw (rawPreamble preamble)
  else CommonTable.clauseOf (CommonTable.anyRecursive common) entries ++ .raw " "

mutual

def Query.compile (options : Options) : Query → Except Fault Statement
  | q@⟨_, _, _, _, _, _, _, _, _, _, _, common, preamble⟩ => do
    let entries ← CommonTable.compileAll options common
    let body ← q.body
    return Query.preambleOf common preamble entries ++ body ++ .raw (q.tail options)

/-- A common table as an entry of a WITH clause. -/
def CommonTable.compile (options : Options) : CommonTable → Except Fault Statement
  | ⟨name, columns, body, _⟩ => do
    Name.checkIdentifier name
    Name.checkIdentifiers columns
    let body ← body.compile options name
    let columns := if columns.isEmpty then "" else " (" ++ ", ".intercalate columns ++ ")"
    return .raw (name ++ columns ++ " AS (") ++ body ++ .raw ")"

def TableBody.compile (options : Options) (name : String) : TableBody → Except Fault Statement
  | .query q => q.compile options
  | .raw sql =>
    match Text.content? (some sql) with
    | some sql => .ok (.raw sql)
    | none => .error (.emptyInput (.noBody name))

/-- Common tables as entries of a WITH clause, in order. -/
def CommonTable.compileAll (options : Options) : List CommonTable → Except Fault (List Statement)
  | [] => .ok []
  | table :: rest => do
    let entry ← table.compile options
    let later ← CommonTable.compileAll options rest
    return entry :: later

end

def CommonTable.withClause (options : Options) (tables : List CommonTable) :
    Except Fault Statement := do
  let entries ← CommonTable.compileAll options tables
  return CommonTable.clauseOf (CommonTable.anyRecursive tables) entries

/-- The statement that counts the rows of a query, without regard to its order and page. Rows that
are grouped or made distinct are counted after that. -/
def Query.compileCount (options : Options) (q : Query) : Except Fault Statement := do
  let entries ← CommonTable.compileAll options q.common
  let preamble := preambleOf q.common q.preamble entries
  if q.distinct || !q.groupBy.isEmpty then
    let body ← q.body
    return preamble ++ .raw "SELECT COUNT(*) FROM (" ++ body ++ .raw ") AS counted"
  else
    let source ← q.sourceClause
    return preamble ++ .raw "SELECT COUNT(*)" ++ source

end BoundSql
