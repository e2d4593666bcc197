import BoundSql.Proofs.Checked.Condition

/-! The values that a condition leaves behind when it is compiled into given ones. Nothing is taken
from those, and what is added are the values of its comparisons up to the first one with a fault. -/
namespace BoundSql
open Outcome

namespace Comparison

/-- A comparison without a fault: its field is an identifier, or two with a dot between them, its
operator is known, and its value fits the operator. -/
structure Good (c : Comparison) : Prop where
  field : Name.isIdentifier c.field.toList ∨ ∃ table column,
    c.field.toList = table ++ '.' :: column ∧ Name.isIdentifier table ∧ Name.isIdentifier column
  operator : ∃ op, Operator.parse c.operator = .ok op ∧ op.fits c.value

/-- The values that a comparison binds, if its operator is known. -/
def bound (c : Comparison) : List Value :=
  match Operator.parse c.operator with
  | .ok op => op.bound c.value
  | .error _ => []

variable {c : Comparison}

theorem args_of_compile {part : Statement} (h : c.compile = .ok part) : part.args = c.bound := by
  obtain ⟨-, op, parsed, -, rfl⟩ := compile_ok.mp h
  unfold bound
  rw [parsed]
  rfl

theorem good_iff_compile : c.Good ↔ ∃ part, c.compile = .ok part := by
  simp only [compile_ok]
  constructor
  · rintro ⟨field, op, parsed, fits⟩
    exact ⟨_, Name.isColumn_iff.mpr field, op, parsed, fits, rfl⟩
  · rintro ⟨_, column, op, parsed, fits, -⟩
    exact ⟨Name.isColumn_iff.mp column, op, parsed, fits⟩

theorem fault?_eq_none : c.fault? = none ↔ c.Good := by
  rw [good_iff_compile, ← fault?_compile]
  cases c.compile <;> simp [Outcome.fault?]

instance : DecidablePred Good := fun _ => decidable_of_iff _ fault?_eq_none

end Comparison

namespace Condition

/-- The comparisons of a condition up to the first one with a fault. -/
def reached (condition : Condition) : List Comparison :=
  condition.comparisons.takeWhile fun c => c.Good

/-- The values that those bind. -/
def reachedValues (condition : Condition) : List Value := condition.reached.flatMap Comparison.bound

variable {condition : Condition}

theorem reached_of_good (good : ∀ c ∈ condition.comparisons, c.Good) :
    condition.reached = condition.comparisons :=
  List.takeWhile_eq_self_iff.mpr fun c mem => decide_eq_true (good c mem)

theorem takeWhile_good {before after : List Comparison} {bad : Comparison}
    (good : ∀ c ∈ before, c.Good) (fails : ¬ bad.Good) :
    (before ++ bad :: after).takeWhile (fun c => decide c.Good) = before := by
  rw [List.takeWhile_append_of_pos fun c mem => decide_eq_true (good c mem),
    List.takeWhile_cons_of_neg (by simp [fails]), List.append_nil]

theorem fault?_emit (condition : Condition) :
    fault? condition.emit.outcome = condition.comparisons.findSome? Comparison.fault? := by
  rw [← condition.compile_screened, compile_emit]
  cases condition.emit.outcome <;> rfl

/-- A list of comparisons is all good, or there is a first one with a fault. -/
theorem good_or_first (condition : Condition) :
    ((∀ c ∈ condition.comparisons, c.Good) ∧ ∃ text, condition.emit.outcome = .ok text) ∨
      ∃ before bad after fault, condition.comparisons = before ++ bad :: after ∧
        (∀ c ∈ before, c.Good) ∧ bad.fault? = some fault ∧
        condition.emit.outcome = .error fault := by
  have first := condition.fault?_emit
  cases outcome : condition.emit.outcome with
  | ok text =>
      rw [outcome] at first
      refine .inl ⟨fun c mem => ?_, text, rfl⟩
      exact Comparison.fault?_eq_none.mp (List.findSome?_eq_none_iff.mp first.symm c mem)
  | error fault =>
      rw [outcome] at first
      obtain ⟨before, bad, after, split, fails, pass⟩ := List.findSome?_eq_some_iff.mp first.symm
      exact .inr ⟨before, bad, after, fault, split,
        fun c mem => Comparison.fault?_eq_none.mp (pass c mem), fails, rfl⟩

theorem not_good {bad : Comparison} {fault : Fault} (fails : bad.fault? = some fault) :
    ¬ bad.Good := by
  rw [← Comparison.fault?_eq_none, fails]
  exact nofun

/-- Members leave what those before the first fault leave. -/
theorem emitAll_bound {members : List Condition}
    (each : ∀ m ∈ members, m.emit.bound = m.reachedValues) :
    (emitAll members).bound =
      ((members.flatMap comparisons).takeWhile fun c => c.Good).flatMap Comparison.bound := by
  induction members with
  | nil => rfl
  | cons m rest ih =>
      obtain ⟨first, later⟩ := List.forall_mem_cons.mp each
      rw [List.flatMap_cons, emitAll]
      obtain ⟨good, text, outcome⟩ | ⟨before, bad, after, fault, split, good, fails, outcome⟩ :=
        m.good_or_first
      · rw [List.takeWhile_append_of_pos fun c mem => decide_eq_true (good c mem),
          List.flatMap_append, ← ih later, ← reached_of_good good]
        simp only [outcome, first]
        rfl
      · rw [split, List.append_assoc, List.cons_append, takeWhile_good good (not_good fails)]
        simp only [outcome, first]
        rw [reachedValues, reached, split, takeWhile_good good (not_good fails)]

theorem emit_bound (condition : Condition) : condition.emit.bound = condition.reachedValues := by
  induction condition using induct with
  | comparison c =>
      rw [reachedValues, reached, comparisons, emit]
      cases compiled : c.compile with
      | ok part =>
          have good : c.Good := Comparison.good_iff_compile.mpr ⟨part, compiled⟩
          simp [good, Comparison.args_of_compile compiled]
      | error fault =>
          have fails : ¬ c.Good := by
            rw [Comparison.good_iff_compile, compiled]
            simp
          simp [fails]
  | group connective members ih =>
      rw [emit, reachedValues, reached, comparisons_group]
      exact emitAll_bound ih

theorem compileInto_eq (condition : Condition) (given : List Value) :
    condition.compileInto given = (condition.emit.outcome, given ++ condition.reachedValues) := by
  rw [compileInto_emit, emit_bound]

/-- A comparison with a fault leaves nothing. -/
theorem compileInto_faulty {bad : Comparison} {fault : Fault} (fails : bad.fault? = some fault) :
    (comparison bad).compileInto [] = (.error fault, []) := by
  have compiled := bad.fault?_compile
  rw [fails] at compiled
  rw [compileInto]
  cases outcome : bad.compile with
  | ok part =>
      rw [outcome] at compiled
      cases compiled
  | error other =>
      rw [outcome] at compiled
      cases compiled
      rfl

/-- Conditions compiled in turn, each into the values that the one before it has left. -/
def compileEach : List Condition → List Value → List (Except Fault String) × List Value
  | [], given => ([], given)
  | condition :: rest, given =>
    let (outcome, left) := condition.compileInto given
    let (outcomes, all) := compileEach rest left
    (outcome :: outcomes, all)

theorem compileEach_eq (conditions : List Condition) (given : List Value) :
    compileEach conditions given =
      (conditions.map fun other => (other.compileInto []).1,
        given ++ conditions.flatMap reachedValues) := by
  induction conditions generalizing given with
  | nil => simp [compileEach]
  | cons condition rest ih =>
      rw [compileEach, compileInto_eq]
      simp only [ih, compileInto_eq, List.map_cons, List.flatMap_cons, List.append_assoc]

/-- Compiling a condition into given values appends to them and ends at the first comparison with a
fault. Without one the values of all comparisons are there, and else those of the comparisons before
it. So conditions that are compiled in turn leave such values of each of them, also of those that
fail. -/
theorem compileInto_appends (condition : Condition) (given : List Value)
    (conditions : List Condition) :
    (((∀ c ∈ condition.comparisons, c.Good) ∧ ∃ text, condition.compileInto given =
          (.ok text, given ++ condition.comparisons.flatMap Comparison.bound)) ∨
        ∃ before bad after fault, condition.comparisons = before ++ bad :: after ∧
          (∀ c ∈ before, c.Good) ∧ ¬ bad.Good ∧ bad.fault? = some fault ∧
          (comparison bad).compileInto [] = (.error fault, []) ∧
          condition.compileInto given =
            (.error fault, given ++ before.flatMap Comparison.bound)) ∧
      compileEach conditions given =
        (conditions.map fun other => (other.compileInto []).1,
          given ++ conditions.flatMap reachedValues) := by
  refine ⟨?_, compileEach_eq conditions given⟩
  rw [compileInto_eq, reachedValues]
  obtain ⟨good, text, outcome⟩ | ⟨before, bad, after, fault, split, good, fails, outcome⟩ :=
    condition.good_or_first
  · rw [outcome, reached_of_good good]
    exact .inl ⟨good, text, rfl⟩
  · refine .inr ⟨before, bad, after, fault, split, good, not_good fails, fails,
      compileInto_faulty fails, ?_⟩
    rw [outcome, reached, split, takeWhile_good good (not_good fails)]

end Condition
end BoundSql
