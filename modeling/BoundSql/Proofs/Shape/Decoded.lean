import BoundSql.Proofs.Json.Nesting
import BoundSql.Proofs.Json.Reread
import BoundSql.Proofs.Shape.Change
import BoundSql.Proofs.Shape.Query
import BoundSql.Shape.Settings

/-! What is written as JSON is read back from its text. -/
namespace BoundSql.Shape
open Node

theorem ofSettings_eq (s : Settings) :
    ofSettings s = .table (record [["max_batch_rows"], ["default_page_size"]]
      [some (ofSetting s.maxBatchRows), some (ofSetting s.pageSize)]) :=
  rfl

theorem settings?_ofSettings {d : Dialect} (s : Settings) :
    settings? d (ofSettings s) = some s := by
  have setting : ∀ n, optional count? (some (ofSetting n)) = some n := fun n => by
    cases n with
    | none => rfl
    | some n => exact optional_count (some n)
  unfold settings?
  rw [ofSettings_eq, fields?_record (by decide) rfl]
  simp [setting]

theorem plain_ofSettings (s : Settings) : Plain (ofSettings s) := by
  have setting : ∀ n, Plain (ofSetting n) := fun n => by
    cases n with
    | none => exact .null
    | some n => exact plain_ofCount n
  rw [ofSettings_eq]
  exact plain_record ⟨plain_some (setting _), plain_some (setting _)⟩

/-- Whatever holds no real number and is not nested too deep is read back from the compact text
that it is written as. -/
def Decodes {α : Type} (write : α → Node) (read? : Node → Option α) (values : α → List Value) :
    Prop :=
  ∀ x, (∀ v ∈ values x, v.isRealFree) → Json.nesting (Json.compact (write x)) ≤ 127 →
    (Json.read? (Json.compact (write x))).bind read? = some x

theorem decodes_of_plain {α : Type} {write : α → Node} {read? : Node → Option α}
    {values : α → List Value} (plain : ∀ x, (∀ v ∈ values x, v.isRealFree) → Plain (write x))
    (read : ∀ x, read? (write x) = some x) : Decodes write read? values := by
  intro x free shallow
  have tree := plain x free
  rw [Json.nesting_compact tree] at shallow
  rw [Json.read?_compact tree shallow, Option.bind_some, read]

/-- Every shape of a document is read back from the JSON that it is written as. -/
theorem decodes_shapes :
    Decodes ofValue value? (fun v => [v]) ∧
    Decodes ofCondition condition? Condition.values ∧
    Decodes ofTableSelect (tableSelect? .json) (fun s => s.filter.elim [] Condition.values) ∧
    Decodes ofQuery (query? .json) Query.values ∧
    Decodes ofJoin (join? .json) (fun _ => []) ∧
    Decodes ofCommonTable (commonTable? .json (query? .json)) CommonTable.values ∧
    Decodes ofRow (row? .json) (fun r => r.fields.map (·.2)) ∧
    Decodes ofConflict (conflict? .json) (fun _ => []) ∧
    Decodes ofUpdate (update? .json)
      (fun u => u.assignments.map (·.2) ++ u.filter.elim [] Condition.values) ∧
    Decodes ofDeletion (deletion? .json) (fun d => d.filter.elim [] Condition.values) ∧
    Decodes ofSettings (settings? .json) (fun _ => []) := by
  refine ⟨?values, ?conditions, ?selects, ?queries, ?joins, ?tables, ?rows, ?conflicts, ?updates,
    ?deletions, ?settings⟩
  case values =>
    refine decodes_of_plain (fun v free => plain_ofValue v ?_) value?_ofValue
    exact free v List.mem_cons_self
  case conditions => exact decodes_of_plain (fun _ => plain_ofCondition) condition?_ofCondition
  case selects => exact decodes_of_plain (fun _ => plain_ofTableSelect) tableSelect?_ofTableSelect
  case queries => exact decodes_of_plain (fun _ => plain_ofQuery) query?_ofQuery
  case joins => exact decodes_of_plain (fun j _ => plain_ofJoin j) join?_ofJoin
  case tables =>
    refine decodes_of_plain (fun table free => ?_) fun table =>
      commonTable?_ofCommonTable table fun inner _ => query?_ofQuery inner
    refine plain_ofCommonTable fun inner body => plain_ofQuery ?_
    rwa [CommonTable.values_eq, body, TableBody.values] at free
  case rows => exact decodes_of_plain (fun _ => plain_ofRow) row?_ofRow
  case conflicts => exact decodes_of_plain (fun c _ => plain_ofConflict c) conflict?_ofConflict
  case updates =>
    refine decodes_of_plain (fun u free => ?_) update?_ofUpdate
    obtain ⟨assigned, held⟩ := List.forall_mem_append.mp free
    exact plain_ofUpdate assigned held
  case deletions => exact decodes_of_plain (fun _ => plain_ofDeletion) deletion?_ofDeletion
  case settings => exact decodes_of_plain (fun s _ => plain_ofSettings s) settings?_ofSettings

/-- A query over a recursive table that is a query itself, over a table given as text. Its filter
is a group without a connective that holds an empty one. -/
def overTree : Query where
  source := "tree"
  label := some "t"
  joins := [{ kind := .cross, table := "days" }]
  filter := some (.group none
    [.all [.leaf "state" "in" (.list [.null, .list [.bool true, .text "\u0001\\é"]])], .any []])
  limit := some 0
  common :=
    [{ name := "tree"
       columns := ["id"]
       recursive := true
       body := .query
        { source := "roots"
          distinct := true
          having := some "COUNT(\"id\") > 1"
          offset := some 18446744073709551615
          common := [{ name := "roots", body := .raw "SELECT 1" }] } }]

/-- A row that lists a column twice. -/
def twice : Row := ⟨"users", [("b", .integer (-1)), ("a", .text "\"\n\u0001"), ("b", .null)]⟩

set_option maxRecDepth 100000 in
theorem decodes_overTree :
    (∀ v ∈ overTree.values, v.isRealFree) ∧
    Json.nesting (Json.compact (ofQuery overTree)) = 8 ∧
    (Json.read? (Json.compact (ofQuery overTree))).bind (query? .json) = some overTree ∧
    Json.compact (ofRow twice) = "\x7b\"table\":\"users\",\"fields\":\x7b\"b\":-1," ++
      "\"a\":\"\\\"\\n\\u0001\",\"b\":null\x7d\x7d" ∧
    (Json.read? (Json.compact (ofRow twice))).bind (row? .json) = some twice := by
  obtain ⟨-, -, -, queries, -, -, rows, -⟩ := decodes_shapes
  have free : ∀ v ∈ overTree.values, v.isRealFree := by decide
  have level : Json.nesting (Json.compact (ofQuery overTree)) = 8 := by
    rw [Json.nesting_compact (plain_ofQuery free)]
    decide
  have freeRow : ∀ v ∈ twice.fields.map (·.2), v.isRealFree := by decide
  have levelRow : Json.nesting (Json.compact (ofRow twice)) = 2 := by
    rw [Json.nesting_compact (plain_ofRow freeRow)]
    decide
  exact ⟨free, level, queries overTree free (by omega), by decide,
    rows twice freeRow (by omega)⟩

end BoundSql.Shape
