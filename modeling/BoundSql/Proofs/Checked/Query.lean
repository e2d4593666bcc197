import BoundSql.Proofs.Checked.Condition
import BoundSql.Proofs.Query

/-! Which queries compile: those that pass every check of a list that the query alone determines.
Of the others, each fails with the fault of the first check that it does not pass. -/
namespace BoundSql
open Outcome

/-- One thing that is asked of a query. -/
inductive Check where
  | identifier (name : String)
  | table (name : String)
  /-- The body of a common table that is given as a text. -/
  | body (name sql : String)
  | joinCondition (kind : JoinKind) (table : String) (on : Option String)
  | comparison (c : Comparison)

def Check.fault? : Check → Option Fault
  | identifier name =>
    if Name.isIdentifier name.toList then none else some (.invalidIdentifier name)
  | table name => if Name.isIdentifier name.toList then none else some (.invalidTableName name)
  | body name sql => if Text.Blank sql then some (.emptyInput (.noBody name)) else none
  | joinCondition kind joined on =>
    if ∀ text ∈ on, Text.Blank text then some (.missingJoinCondition kind.sql joined) else none
  | comparison c => c.fault?

def Join.checks (j : Join) : List Check :=
  [.table j.table] ++ j.label.toList.map .identifier ++
    if j.kind = .cross then [] else [.joinCondition j.kind j.table j.on]

def Condition.checks (filter : Option Condition) : List Check :=
  (filter.toList.flatMap comparisons).map .comparison

/-- The checks of a query apart from its common tables. -/
def Query.ownChecks (q : Query) : List Check :=
  [.table q.source] ++ q.label.toList.map .identifier ++ q.joins.flatMap Join.checks ++
    Condition.checks q.filter

mutual

/-- The checks of a query in their order: first those of its common tables, with all checks of the
queries that these consist of. -/
def Query.checks : Query → List Check
  | q@⟨_, _, _, _, _, _, _, _, _, _, _, common, _⟩ => CommonTable.checksAll common ++ q.ownChecks

def CommonTable.checks : CommonTable → List Check
  | ⟨name, columns, body, _⟩ => (name :: columns).map .identifier ++ body.checks name

def TableBody.checks (name : String) : TableBody → List Check
  | .query q => q.checks
  | .raw sql => [.body name sql]

def CommonTable.checksAll : List CommonTable → List Check
  | [] => []
  | table :: rest => table.checks ++ CommonTable.checksAll rest

end

theorem CommonTable.checksAll_eq (tables : List CommonTable) :
    CommonTable.checksAll tables = tables.flatMap CommonTable.checks := by
  induction tables with
  | nil => rfl
  | cons table rest ih => rw [CommonTable.checksAll, ih, List.flatMap_cons]

theorem Query.checks_eq (q : Query) :
    q.checks = q.common.flatMap CommonTable.checks ++ q.ownChecks := by
  cases q
  rw [Query.checks, CommonTable.checksAll_eq]

theorem Text.content?_eq_none {text : Option String} :
    content? text = none ↔ ∀ given ∈ text, Blank given := by
  cases text with
  | none => simp [content?]
  | some given => simp [content?, ← trim_eq_empty]

theorem Text.not_blank_of_content? {text : Option String} {kept : String}
    (h : content? text = some kept) : ¬ ∀ given ∈ text, Blank given := by
  intro blank
  rw [content?_eq_none.mpr blank] at h
  cases h

/-- That checks of a query decide an outcome. -/
abbrev Decided {α : Type} (checks : List Check) (x : Except Fault α) : Prop :=
  Screened Check.fault? checks x

namespace Name

theorem checkIdentifier_decided (name : String) :
    Decided [.identifier name] (checkIdentifier name) :=
  .ite (by rw [Check.fault?])

theorem checkTable_decided (name : String) : Decided [.table name] (checkTable name) :=
  .ite (by rw [Check.fault?])

theorem checkOptional_decided (label : Option String) :
    Decided (label.toList.map .identifier) (checkOptional label) := by
  cases label with
  | none => exact .ok ()
  | some name => exact checkIdentifier_decided name

theorem checkIdentifiers_decided (names : List String) :
    Decided (names.map .identifier) (checkIdentifiers names) := by
  induction names with
  | nil => exact .ok ()
  | cons name rest ih => exact (checkIdentifier_decided name).bind fun _ _ => ih

end Name

theorem Condition.whereClause_decided (filter : Option Condition) :
    Decided (checks filter) (whereClause filter) := by
  cases filter with
  | none => exact .ok _
  | some condition =>
      rw [checks, Option.toList_some, List.flatMap_singleton]
      have compiled : Decided (condition.comparisons.map .comparison) condition.compile := by
        apply Screened.of_map
        exact condition.compile_screened
      exact compiled.bind_ok _

theorem Join.compile_decided (j : Join) : Decided j.checks j.compile := by
  unfold compile checks
  rw [List.append_assoc]
  refine .bind (Name.checkTable_decided j.table) fun _ _ => ?_
  refine .bind (Name.checkOptional_decided j.label) fun _ _ => ?_
  by_cases cross : j.kind = .cross
  · rw [if_pos cross, if_pos cross]
    exact .ok _
  · rw [if_neg cross, if_neg cross]
    apply Screened.single
    cases on : Text.content? j.on with
    | none =>
        rw [Check.fault?, if_pos (Text.content?_eq_none.mp on)]
        rfl
    | some text =>
        rw [Check.fault?, if_neg (Text.not_blank_of_content? on)]
        rfl

namespace Query

theorem joinTexts_decided (joins : List Join) :
    Decided (joins.flatMap Join.checks) (joinTexts joins) := by
  induction joins with
  | nil => exact .ok _
  | cons j rest ih =>
      rw [List.flatMap_cons, joinTexts]
      apply j.compile_decided.bind
      intro text _
      exact ih.bind_ok _

theorem sourceClause_decided (q : Query) : Decided q.ownChecks q.sourceClause := by
  unfold sourceClause ownChecks
  rw [List.append_assoc, List.append_assoc]
  refine .bind (Name.checkTable_decided q.source) fun _ _ => ?_
  refine .bind (Name.checkOptional_decided q.label) fun _ _ => ?_
  apply (joinTexts_decided q.joins).bind
  intro joins _
  exact (Condition.whereClause_decided q.filter).bind_ok _

theorem body_decided (q : Query) : Decided q.ownChecks q.body :=
  q.sourceClause_decided.bind_ok _

end Query

variable (options : Options)

theorem CommonTable.compile_decided (table : CommonTable)
    (inner : ∀ q, table.body = .query q → Decided q.checks (q.compile options)) :
    Decided table.checks (table.compile options) := by
  obtain ⟨name, columns, body, recursive⟩ := table
  have inside : Decided (body.checks name) (body.compile options name) := by
    cases body with
    | query q => exact inner q rfl
    | raw sql =>
        rw [TableBody.checks, TableBody.compile]
        apply Screened.single
        cases text : Text.content? (some sql) with
        | none =>
            have blank : Text.Blank sql := Text.content?_eq_none.mp text sql rfl
            rw [Check.fault?, if_pos blank]
            rfl
        | some kept =>
            have solid : ¬ Text.Blank sql := fun blank =>
              Text.not_blank_of_content? text (by simpa using blank)
            rw [Check.fault?, if_neg solid]
            rfl
  unfold CommonTable.compile CommonTable.checks
  rw [List.map_cons, List.cons_append]
  refine .bind (Name.checkIdentifier_decided name) fun _ _ => ?_
  refine .bind (Name.checkIdentifiers_decided columns) fun _ _ => ?_
  exact inside.bind_ok _

namespace Query

theorem compile_decided (q : Query) : Decided q.checks (q.compile options) := by
  induction q using induct with
  | step q ih =>
      rw [compile_eq, checks_eq]
      have entries := Screened.mapM fun table ht =>
        CommonTable.compile_decided options table (ih table ht)
      apply entries.bind
      intro texts _
      exact q.body_decided.bind_ok _

/-- A query compiles if it passes all its checks, and else fails with the fault of the first that
it does not pass. -/
theorem compile_checked (options : Options) (q : Query) :
    ((∃ s, q.compile options = .ok s) ↔ ∀ check ∈ q.checks, check.fault? = none) ∧
      ∀ fault, q.compile options = .error fault ↔
        ∃ before check after, q.checks = before ++ check :: after ∧
          (∀ earlier ∈ before, earlier.fault? = none) ∧ check.fault? = some fault := by
  have decided := q.compile_decided options
  exact ⟨decided.exists_ok_iff, fun _ => decided.eq_error_iff⟩

end Query
end BoundSql
