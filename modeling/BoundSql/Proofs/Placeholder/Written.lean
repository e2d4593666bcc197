import BoundSql.Proofs.Condition
import BoundSql.Proofs.Draft
import BoundSql.Proofs.Placeholder.Phrase

/-! Statements written out: phrase after phrase, with each value as a literal where it belongs. No
placeholder and no argument takes part in it. -/
namespace BoundSql

def Comparison.written (c : Comparison) : String :=
  match Operator.parse c.operator with
  | .ok op => c.field ++ " " ++ op.sql ++ op.operand Value.literal c.value
  | .error _ => c.field

theorem Comparison.written_of_parse {c : Comparison} {op : Operator}
    (h : Operator.parse c.operator = .ok op) :
    c.written = c.field ++ " " ++ op.sql ++ op.operand Value.literal c.value := by
  unfold Comparison.written
  rw [h]

namespace Condition

mutual

/-- A condition with its values in place. Members that hold no comparison are left out. -/
def written : Condition → String
  | comparison c => c.written
  | group connective members =>
    match writtenAll members with
    | [] => ""
    | texts => "(" ++ (" " ++ (connective.getD .and).sql ++ " ").intercalate texts ++ ")"

def writtenAll : List Condition → List String
  | [] => []
  | m :: rest => if m.live then m.written :: writtenAll rest else writtenAll rest

end

theorem writtenAll_eq (members : List Condition) :
    writtenAll members = (members.filter live).map written := by
  induction members with
  | nil => rfl
  | cons m rest ih =>
      rw [writtenAll, List.filter_cons, ih]
      split <;> rfl

/-- The WHERE clause of a filter that holds a comparison. -/
def wherePhrases (filter : Option Condition) : List String :=
  keyworded "WHERE" ((filter.filter live).map written)

end Condition

def Join.phrases (j : Join) : List String :=
  [j.kind.sql, "JOIN", j.table] ++ keyworded "AS" j.label ++
    if j.kind = .cross then [] else keyworded "ON" (Text.content? j.on)

def Page.phrases (page : Page) (pageSize : UInt64) : List String :=
  let resolved := page.resolve pageSize
  keyworded "LIMIT" (resolved.limit.map fun n => Text.ofNat n.toNat) ++
    keyworded "OFFSET" (resolved.offset.map fun n => Text.ofNat n.toNat)

namespace Query

/-- The source of a query, from FROM to WHERE. -/
def sourcePhrases (q : Query) : List String :=
  ["FROM", q.source] ++ keyworded "AS" q.label ++ q.joins.flatMap Join.phrases ++
    Condition.wherePhrases q.filter

/-- A query from SELECT to HAVING. -/
def bodyPhrases (q : Query) : List String :=
  ["SELECT"] ++ (if q.distinct then ["DISTINCT"] else []) ++ [(listed q.fields).getD "*"] ++
    q.sourcePhrases ++ keyworded "GROUP BY" (listed q.groupBy) ++
    keyworded "HAVING" (Text.content? q.having)

def tailPhrases (options : Options) (q : Query) : List String :=
  keyworded "ORDER BY" (listed q.orderBy) ++ q.page.phrases options.pageSize

/-- What stands before SELECT, given the entries of the common tables. -/
def withPhrases (q : Query) (entries : List String) : List String :=
  match q.common, Text.content? q.preamble with
  | [], none => []
  | [], some text => if beginsWith text then [text] else ["WITH", text]
  | tables, _ =>
    ["WITH"] ++ (if tables.any (·.recursive) then ["RECURSIVE"] else []) ++
      [", ".intercalate entries]

end Query

mutual

def Query.written (options : Options) : Query → String
  | q@⟨_, _, _, _, _, _, _, _, _, _, _, common, _⟩ =>
    spaced (q.withPhrases (CommonTable.writtenAll options common) ++ q.bodyPhrases ++
      q.tailPhrases options)

def CommonTable.written (options : Options) : CommonTable → String
  | ⟨name, columns, body, _⟩ =>
    spaced ([name] ++ (if columns.isEmpty then [] else ["(" ++ ", ".intercalate columns ++ ")"]) ++
      ["AS", "(" ++ body.written options ++ ")"])

def TableBody.written (options : Options) : TableBody → String
  | .query q => q.written options
  | .raw sql => Text.trim sql

def CommonTable.writtenAll (options : Options) : List CommonTable → List String
  | [] => []
  | table :: rest => table.written options :: CommonTable.writtenAll options rest

end

theorem CommonTable.writtenAll_eq (options : Options) (tables : List CommonTable) :
    CommonTable.writtenAll options tables = tables.map (CommonTable.written options) := by
  induction tables with
  | nil => rfl
  | cons table rest ih => rw [CommonTable.writtenAll, ih, List.map_cons]

theorem Query.written_eq (options : Options) (q : Query) :
    q.written options = spaced (q.withPhrases (q.common.map (CommonTable.written options)) ++
      q.bodyPhrases ++ q.tailPhrases options) := by
  cases q
  rw [Query.written, CommonTable.writtenAll_eq]

/-- The count of the rows of a query. -/
def Query.writtenCount (options : Options) (q : Query) : String :=
  spaced (q.withPhrases (q.common.map (CommonTable.written options)) ++ ["SELECT", "COUNT(*)"] ++
    if q.distinct || !q.groupBy.isEmpty then
      ["FROM", "(" ++ spaced q.bodyPhrases ++ ")", "AS", "counted"]
    else q.sourcePhrases)

def TableSelect.written (options : Options) (table : String) (s : TableSelect) : String :=
  spaced (["SELECT", "*", "FROM", table] ++ Condition.wherePhrases s.filter ++
    keyworded "GROUP BY" (Text.content? s.groupBy) ++
    keyworded "ORDER BY" (Text.content? s.orderBy) ++
    (Page.mk s.limit s.offset).phrases options.pageSize)

def Update.written (u : Update) : String :=
  spaced (["UPDATE", u.table, "SET",
    ", ".intercalate (u.assignments.map fun a => a.1 ++ " = " ++ a.2.literal)] ++
    Condition.wherePhrases u.filter)

def Deletion.written (d : Deletion) : String :=
  spaced (["DELETE", "FROM", d.table] ++ Condition.wherePhrases d.filter)

def Draft.written (options : Options) : Draft → String
  | .select table s => s.written options table
  | .query q => q.written options
  | .count q => q.writtenCount options
  | .update u => u.written
  | .delete d => d.written

end BoundSql
