import BoundSql.Proofs.Draft
import BoundSql.Proofs.Filter.Combined
import BoundSql.Proofs.Meaning.Fragment

/-! Filters given one after another. Each narrows the one before it, so all of them hold, and the
WHERE clause of the statement says so. -/
namespace BoundSql
open Outcome

/-- The comparisons of an expression from left to right, each with the values it has read. -/
def Formula.atoms : Formula → List (String × Operator × List Value)
  | atom column op values => [(column, op, values)]
  | both left right => left.atoms ++ right.atoms
  | either left right => left.atoms ++ right.atoms

theorem Formula.atoms_foldl (connective : Connective) (formulas : List Formula)
    (first : Formula) :
    (formulas.foldl connective.formula first).atoms =
      first.atoms ++ formulas.flatMap Formula.atoms := by
  induction formulas generalizing first with
  | nil => simp
  | cons next formulas ih =>
      have step : (connective.formula first next).atoms = first.atoms ++ next.atoms := by
        cases connective <;> rfl
      rw [List.foldl_cons, ih, step, List.flatMap_cons, List.append_assoc]

/-- What a comparison is read as: its column and operator, with the values that it binds. -/
def Comparison.ReadAs (c : Comparison) (atom : String × Operator × List Value) : Prop :=
  ∃ op, Operator.parse c.operator = .ok op ∧ (c.field, op, op.bound c.value) = atom

namespace Reader

/-- A part that is read as a formula with the comparisons of a condition. -/
def Listed (condition : Condition) (part : Statement) : Prop :=
  ∃ formula, Reads part formula ∧
    List.Forall₂ Comparison.ReadAs condition.comparisons formula.atoms

theorem listed_comparison {c : Comparison} {op : Operator}
    (column : Name.isColumn c.field.toList) (parsed : Operator.parse c.operator = .ok op)
    (fits : op.fits c.value) : Listed (.comparison c) (c.fragment op) :=
  ⟨_, reads_fragment column fits, .cons ⟨op, parsed, rfl⟩ .nil⟩

theorem listed_members {members : List Condition} {parts : List Statement}
    (h : List.Forall₂ Listed members parts) :
    ∃ formulas, List.Forall₂ Reads parts formulas ∧
      List.Forall₂ Comparison.ReadAs (members.flatMap Condition.comparisons)
        (formulas.flatMap Formula.atoms) := by
  induction h with
  | nil => exact ⟨[], .nil, .nil⟩
  | cons first _ ih =>
      obtain ⟨formula, reads, own⟩ := first
      obtain ⟨formulas, rest, later⟩ := ih
      refine ⟨formula :: formulas, .cons reads rest, ?_⟩
      rw [List.flatMap_cons, List.flatMap_cons]
      exact List.rel_append own later

theorem listed_group (connective : Option Connective) {members : List Condition}
    {parts : List Statement} (present : parts ≠ [])
    (h : List.Forall₂ Listed (members.filter Condition.live) parts) :
    Listed (.group connective members) (Condition.gathered connective parts) := by
  obtain ⟨formulas, reads, atoms⟩ := listed_members h
  rw [Condition.comparisons_live] at atoms
  cases reads with
  | nil => exact absurd rfl present
  | cons first rest =>
      refine ⟨_, reads_gathered connective first rest, ?_⟩
      rw [Condition.comparisons_group, Formula.atoms_foldl, ← List.flatMap_cons]
      exact atoms

theorem listed_compile {condition : Condition} {part : Statement}
    (h : condition.compile = .ok part) (present : part.sql ≠ "") : Listed condition part :=
  Condition.compile_induct (fun _ _ => listed_comparison)
    (fun connective _ _ some each => listed_group connective some each) h present

/-- The formula that a condition is read as has both its truth value and its comparisons. -/
theorem read_compile {condition : Condition} {part : Statement}
    (h : condition.compile = .ok part) (present : part.sql ≠ "") :
    ∃ formula, read part.sql part.args = some formula ∧
      List.Forall₂ Comparison.ReadAs condition.comparisons formula.atoms ∧
      ∀ assignment, condition.truth assignment = some (formula.truth assignment) := by
  obtain ⟨formula, reads, truth⟩ := faithful_compile h present
  obtain ⟨other, again, atoms⟩ := listed_compile h present
  have same : formula = other := Option.some.inj (reads.read.symm.trans again.read)
  exact ⟨formula, reads.read, same ▸ atoms, truth⟩

end Reader

namespace Truth

/-- Whether all of some truth values hold together. -/
def all (truths : List Truth) : Truth := truths.foldl and .yes

theorem yes_and (t : Truth) : yes.and t = t := by cases t <;> rfl

theorem and_yes (t : Truth) : t.and yes = t := by cases t <;> rfl

theorem all_concat (truths : List Truth) (t : Truth) : all (truths ++ [t]) = (all truths).and t :=
  List.foldl_concat _ _ _ _

theorem getD_merge (a b : Option Truth) :
    (Option.merge and a b).getD yes = (a.getD yes).and (b.getD yes) := by
  cases a <;> cases b <;> simp [yes_and, and_yes]

end Truth

namespace Condition

theorem narrow_eq (filter : Option Condition) (condition : Condition) :
    narrow filter condition = some (filter.elim condition (·.and condition)) := by
  cases filter <;> rfl

/-- A filter that stands for conditions: it has their comparisons in their order, holds when all of
those hold that have a comparison, and binds what they bind in turn. -/
structure Narrowed (conditions : List Condition) (filter : Option Condition) : Prop where
  comparisons : filter.elim [] comparisons = conditions.flatMap Condition.comparisons
  truth : ∀ assignment, ((filter.bind (truth assignment)).getD .yes) =
    Truth.all (conditions.filterMap (Condition.truth assignment))
  given : filter = none → conditions = []
  compiled : ∀ condition ∈ filter, ∀ part, condition.compile = .ok part →
    ∃ parts, List.Forall₂ (fun c p => c.compile = .ok p) conditions parts ∧
      part.args = parts.flatMap Statement.args

theorem Narrowed.none : Narrowed [] none :=
  ⟨rfl, fun _ => rfl, fun _ => rfl, fun _ h => nomatch h⟩

/-- One more filter. -/
theorem Narrowed.narrow {conditions : List Condition} {filter : Option Condition}
    (h : Narrowed conditions filter) (condition : Condition) :
    Narrowed (conditions ++ [condition]) (narrow filter condition) := by
  rw [narrow_eq]
  cases filter with
  | none =>
      obtain rfl := h.given rfl
      refine ⟨by simp, fun assignment => ?_, fun absent => (nomatch absent), ?_⟩
      · cases holds : condition.truth assignment <;> simp [holds, Truth.all, Truth.yes_and]
      · rintro _ ⟨⟩ part compiled
        exact ⟨[part], .cons compiled .nil, by simp⟩
  | some existing =>
      refine ⟨?_, fun assignment => ?_, fun absent => (nomatch absent), ?_⟩
      · have before := h.comparisons
        simp only [Option.elim_some] at before ⊢
        rw [Condition.and, comparisons_combine, before]
        simp
      · have before := h.truth assignment
        simp only [Option.bind_some, Option.elim_some] at before ⊢
        rw [Condition.and, truth_combine, Connective.truth, Truth.getD_merge, before,
          List.filterMap_append]
        cases holds : condition.truth assignment
        · simp [holds, Truth.and_yes]
        · simp [holds, Truth.all_concat]
      · rintro _ ⟨⟩ part compiled
        obtain ⟨p, q, hp, hq, args⟩ := compile_combine compiled
        obtain ⟨parts, each, earlier⟩ := h.compiled existing rfl p hp
        exact ⟨parts ++ [q], List.rel_append each (.cons hq .nil), by simp [args, earlier]⟩

/-- All filters of a run. -/
theorem narrowed_foldl (conditions : List Condition) :
    Narrowed conditions (conditions.foldl Condition.narrow none) := by
  induction conditions using List.reverseRecOn with
  | nil => exact .none
  | append_singleton conditions condition ih =>
      rw [List.foldl_concat]
      exact ih.narrow condition

/-- A WHERE clause that keeps all of some conditions: it is absent only if they hold no comparison,
binds what they bind, and is read as their comparisons in their order, all conditions together. -/
structure Filters (conditions : List Condition) (clause : Statement) : Prop where
  absent : clause.sql = "" ↔ ∀ c ∈ conditions, c.comparisons = []
  args : ∃ parts, List.Forall₂ (fun c p => c.compile = .ok p) conditions parts ∧
    clause.args = parts.flatMap Statement.args
  present : clause.sql ≠ "" → ∃ text formula, clause.sql = " WHERE " ++ text ∧
    Reader.read text clause.args = some formula ∧
    List.Forall₂ Comparison.ReadAs (conditions.flatMap Condition.comparisons) formula.atoms ∧
    ∀ assignment, formula.truth assignment =
      Truth.all (conditions.filterMap (Condition.truth assignment))

theorem whereClause_args {condition : Condition} {clause : Statement}
    (h : whereClause (some condition) = .ok clause) :
    ∃ part, condition.compile = .ok part ∧ clause.args = part.args := by
  obtain ⟨part, compiled, h⟩ := bind_ok.mp h
  refine ⟨part, compiled, ?_⟩
  cases pure_ok.mp h
  split <;> simp

theorem Narrowed.filters {conditions : List Condition} {filter : Option Condition}
    {clause : Statement} (h : Narrowed conditions filter) (made : whereClause filter = .ok clause) :
    Filters conditions clause := by
  have bound : ∃ parts, List.Forall₂ (fun c p => c.compile = .ok p) conditions parts ∧
      clause.args = parts.flatMap Statement.args := by
    cases filter with
    | none =>
        obtain rfl := h.given rfl
        cases made
        exact ⟨[], .nil, rfl⟩
    | some condition =>
        obtain ⟨part, compiled, args⟩ := whereClause_args made
        obtain ⟨parts, each, whole⟩ := h.compiled condition rfl part compiled
        exact ⟨parts, each, args.trans whole⟩
  have bare : filter.elim [] Condition.comparisons = [] ↔ ∀ c ∈ conditions, c.comparisons = [] := by
    rw [h.comparisons, List.flatMap_eq_nil_iff]
  obtain ⟨dead, rfl⟩ | ⟨condition, fragment, held, compiled, rfl⟩ := whereClause_ok made
  · refine ⟨iff_of_true rfl (bare.mp ?_), bound, fun text => absurd rfl text⟩
    cases filter with
    | none => rfl
    | some condition => exact live_eq_false.mp (by simpa using dead)
  · obtain ⟨rfl, live⟩ := Option.filter_eq_some_iff.mp held
    have shown := (shown_of_compile compiled).present live
    obtain ⟨formula, read, atoms, truth⟩ := Reader.read_compile compiled shown
    refine ⟨iff_of_false ?_ ?_, bound, fun _ => ⟨fragment.sql, formula, rfl, read, ?_, ?_⟩⟩
    · intro empty
      have nothing := congrArg String.toList empty
      simp at nothing
    · rw [← bare, Option.elim_some, ← live_eq_false, live]
      simp
    · rw [← h.comparisons]
      exact atoms
    · intro assignment
      rw [← h.truth assignment, Option.bind_some, truth assignment, Option.getD_some]

end Condition

theorem Deletion.foldl_narrow (d : Deletion) (conditions : List Condition) :
    conditions.foldl Deletion.narrow d =
      { d with filter := conditions.foldl Condition.narrow d.filter } := by
  induction conditions generalizing d with
  | nil => rfl
  | cons condition rest ih => rw [List.foldl_cons, ih]; rfl

theorem Update.foldl_narrow (u : Update) (conditions : List Condition) :
    conditions.foldl Update.narrow u =
      { u with filter := conditions.foldl Condition.narrow u.filter } := by
  induction conditions generalizing u with
  | nil => rfl
  | cons condition rest ih => rw [List.foldl_cons, ih]; rfl

theorem Query.applyAll_filter (q : Query) (conditions : List Condition) :
    q.applyAll (conditions.map .filter) =
      { q with filter := conditions.foldl Condition.narrow q.filter } := by
  induction conditions generalizing q with
  | nil => cases q; rfl
  | cons condition rest ih => exact ih _

/-- A query with a filter is the query without it, the WHERE clause put in after the joins. -/
theorem Query.compile_filtered {options : Options} {q : Query} (unfiltered : q.filter = none)
    {filter : Option Condition} {s : Statement}
    (h : ({ q with filter } : Query).compile options = .ok s) :
    ∃ before clause after, q.compile options = .ok (before ++ .raw after) ∧
      after = q.grouping ++ q.tail options ∧ s = before ++ clause ++ .raw after ∧
      Condition.whereClause filter = .ok clause := by
  obtain ⟨entries, hentries, body, hbody, rfl⟩ := compile_ok.mp h
  obtain ⟨source, hsource, rfl⟩ := body_ok.mp hbody
  obtain ⟨table, label, joins, hjoins, clause, made, rfl⟩ := sourceClause_ok.mp hsource
  have nothing : Condition.whereClause q.filter = .ok (.raw "") := by
    rw [unfiltered]
    rfl
  have source : q.sourceClause = .ok (.raw (" FROM " ++ q.source ++ Join.aliasText q.label ++
      joins) ++ .raw "") :=
    sourceClause_ok.mpr ⟨table, label, joins, hjoins, _, nothing, rfl⟩
  refine ⟨preambleOf q.common q.preamble entries ++ .raw (q.head ++ " FROM " ++ q.source ++
    Join.aliasText q.label ++ joins), clause, _, ?_, rfl, ?_, made⟩
  · refine compile_ok.mpr ⟨entries, hentries, _, body_ok.mpr ⟨_, source, rfl⟩, ?_⟩
    simp [Statement.ext_iff, String.append_assoc]
  · simp [Statement.ext_iff, String.append_assoc, head, grouping, tail, page]

/-- No filter is lost. However many are given, the WHERE clause keeps them all, and it is absent
only when none of them holds a comparison. -/
theorem filters_kept (options : Options) (conditions : List Condition) :
    (∀ table s, (conditions.foldl Deletion.narrow { table }).compile = .ok s →
      ∃ clause, s = .raw ("DELETE FROM " ++ table) ++ clause ∧
        Condition.Filters conditions clause) ∧
    (∀ table assignments s,
      (conditions.foldl Update.narrow { table, assignments }).compile = .ok s →
      ∃ clause, s = ⟨"UPDATE " ++ table ++ " SET " ++
          ", ".intercalate (assignments.map fun a => a.1 ++ " = ?"),
          assignments.map (·.2)⟩ ++ clause ∧ Condition.Filters conditions clause) ∧
    ∀ (q : Query) s, q.filter = none →
      (q.applyAll (conditions.map .filter)).compile options = .ok s →
      ∃ before clause after, q.compile options = .ok (before ++ .raw after) ∧
        after = q.grouping ++ q.tail options ∧ s = before ++ clause ++ .raw after ∧
        Condition.Filters conditions clause := by
  have kept := Condition.narrowed_foldl conditions
  refine ⟨fun table s h => ?_, fun table assignments s h => ?_, fun q s unfiltered h => ?_⟩
  · rw [Deletion.foldl_narrow] at h
    obtain ⟨-, clause, made, rfl⟩ := Deletion.compile_ok.mp h
    exact ⟨clause, rfl, kept.filters made⟩
  · rw [Update.foldl_narrow] at h
    obtain ⟨-, -, -, clause, made, rfl⟩ := Update.compile_ok.mp h
    exact ⟨clause, rfl, kept.filters made⟩
  · rw [Query.applyAll_filter, unfiltered] at h
    obtain ⟨before, clause, after, without, tail, whole, made⟩ :=
      Query.compile_filtered unfiltered h
    exact ⟨before, clause, after, without, tail, whole, kept.filters made⟩

/-- A disjunction first, groups that hold nothing, and a group without a connective. -/
def Condition.guards : List Condition :=
  [.any [.leaf "role" "=" (.text "a"), .leaf "role" "in" (.list [.text "b", .null])],
    .group none [], .all [.any []], .leaf "age" "between" (.list [.integer 1, .integer 9]),
    .group none [.leaf "name" "is null" .null, .any []]]

set_option maxRecDepth 100000 in
theorem filters_kept_guards :
    (∃ s clause, (Condition.guards.foldl Deletion.narrow { table := "users" }).compile = .ok s ∧
      s.sql = "DELETE FROM users WHERE " ++
        "((role = ? OR role IN (?, ?)) AND age BETWEEN ? AND ? AND (name IS NULL))" ∧
      s = .raw ("DELETE FROM " ++ "users") ++ clause ∧
      Condition.Filters Condition.guards clause) ∧
    (∃ s clause, (Condition.guards.foldl Update.narrow
        { table := "users", assignments := [("age", .null)] }).compile = .ok s ∧
      s = ⟨"UPDATE users SET age = ?", [.null]⟩ ++ clause ∧
      Condition.Filters Condition.guards clause) ∧
    (∃ s before clause after,
      (Query.applyAll { source := "users" } (Condition.guards.map .filter)).compile {} = .ok s ∧
      s = before ++ clause ++ .raw after ∧ Condition.Filters Condition.guards clause) := by
  have deleted : (Condition.guards.foldl Deletion.narrow { table := "users" }).compile = .ok
      ⟨"DELETE FROM users WHERE " ++
        "((role = ? OR role IN (?, ?)) AND age BETWEEN ? AND ? AND (name IS NULL))",
        [.text "a", .text "b", .null, .integer 1, .integer 9]⟩ := by rfl
  have updated : (Condition.guards.foldl Update.narrow
      { table := "users", assignments := [("age", .null)] }).compile = .ok
      ⟨"UPDATE users SET age = ? WHERE " ++
        "((role = ? OR role IN (?, ?)) AND age BETWEEN ? AND ? AND (name IS NULL))",
        [.null, .text "a", .text "b", .null, .integer 1, .integer 9]⟩ := by rfl
  have selected : (Query.applyAll { source := "users" }
      (Condition.guards.map .filter)).compile {} = .ok
      ⟨"SELECT * FROM users WHERE " ++
        "((role = ? OR role IN (?, ?)) AND age BETWEEN ? AND ? AND (name IS NULL))",
        [.text "a", .text "b", .null, .integer 1, .integer 9]⟩ := by rfl
  obtain ⟨deletions, updates, queries⟩ := filters_kept {} Condition.guards
  obtain ⟨clause, whole, kept⟩ := deletions _ _ deleted
  obtain ⟨changes, written, held⟩ := updates _ _ _ updated
  obtain ⟨before, other, after, -, -, all, same⟩ := queries _ _ rfl selected
  exact ⟨⟨_, clause, deleted, rfl, whole, kept⟩, ⟨_, changes, updated, written, held⟩,
    ⟨_, before, other, after, selected, all, same⟩⟩

end BoundSql
