import BoundSql.Proofs.Filter.Combined
import BoundSql.Proofs.Meaning.Fragment

/-! Conditions combined with AND and OR, one after another. A combination means and binds the same
whether it makes a group of its two sides or the first side takes the second as a member. -/
namespace BoundSql
open Outcome

/-- The combination of two conditions under a connective. -/
def Connective.join : Connective → Condition → Condition → Condition
  | and => Condition.and
  | or => Condition.or

theorem Connective.join_eq (connective : Connective) (a b : Condition) :
    connective.join a b = a.combine connective b := by
  cases connective <;> rfl

namespace Condition

/-- The arguments that a condition binds, or its fault. -/
def arguments (condition : Condition) : Except Fault (List Value) :=
  condition.compile.map Statement.args

section Pair
variable (connective : Connective) (a b : Condition)

theorem arguments_pair :
    (group (some connective) [a, b]).arguments =
      do return (← a.arguments) ++ (← b.arguments) := by
  simp only [arguments, compile_group, List.mapM_cons, List.mapM_nil]
  cases a.compile with
  | error fault => rfl
  | ok p =>
      cases b.compile with
      | error fault => rfl
      | ok q => simp [bind, Except.bind, pure, Except.pure, Except.map]

theorem arguments_combine :
    (a.combine connective b).arguments = do return (← a.arguments) ++ (← b.arguments) := by
  obtain made | ⟨given, members, rfl, -, made⟩ := combine_cases connective a b
  · rw [made, arguments_pair]
  · simp only [made, arguments, compile_group, List.mapM_append, List.mapM_cons, List.mapM_nil]
    cases members.mapM compile with
    | error fault => rfl
    | ok parts =>
        cases b.compile with
        | error fault => rfl
        | ok q => simp [bind, Except.bind, pure, Except.pure, Except.map]

end Pair

/-- Only a condition without a comparison has no truth value. -/
theorem truth_eq_none {condition : Condition} {assignment : Assignment} :
    condition.truth assignment = none ↔ condition.comparisons = [] := by
  rw [← live_eq_false]
  refine ⟨fun absent => ?_, truth_of_not_live assignment⟩
  induction condition using induct with
  | comparison c => cases absent
  | group connective members ih =>
      rw [truth, truthAll_eq] at absent
      have skipped : members.filterMap (truth assignment) = [] := by
        split at absent
        · assumption
        · cases absent
      rw [live_group, List.any_eq_false]
      intro m mem
      rw [ih m mem (List.filterMap_eq_nil_iff.mp skipped m mem)]
      decide

/-- A condition that stands for two others under a connective. It has their truth values together,
where a side without one is left out, and its text is read so. It has the fault of the first side,
or else that of the second, and it binds what the two bind in turn. -/
structure Combines (connective : Connective) (a b made : Condition) : Prop where
  truth : ∀ assignment, made.truth assignment =
    Option.merge connective.truth (a.truth assignment) (b.truth assignment)
  read : ∀ part, made.compile = .ok part → part.sql ≠ "" →
    ∃ formula, Reader.read part.sql part.args = some formula ∧ ∀ assignment,
      some (formula.truth assignment) =
        Option.merge connective.truth (a.truth assignment) (b.truth assignment)
  fault : ∀ fault, made.compile = .error fault ↔
    a.compile = .error fault ∨ (∃ p, a.compile = .ok p) ∧ b.compile = .error fault
  args : ∀ args, (∃ part, made.compile = .ok part ∧ part.args = args) ↔
    ∃ p q, a.compile = .ok p ∧ b.compile = .ok q ∧ p.args ++ q.args = args

theorem combines_of_eq {connective : Connective} {a b made : Condition}
    (truth : ∀ assignment, made.truth assignment =
      Option.merge connective.truth (a.truth assignment) (b.truth assignment))
    (arguments : made.arguments = do return (← a.arguments) ++ (← b.arguments)) :
    Combines connective a b made := by
  refine ⟨truth, fun part compiled present => ?_, fun fault => ?_, fun args => ?_⟩
  · obtain ⟨formula, reads, means⟩ := Reader.faithful_compile compiled present
    exact ⟨formula, reads.read, fun assignment => (means assignment).symm.trans (truth assignment)⟩
  · rw [← map_error (f := Statement.args), ← Condition.arguments, arguments, bind_error,
      Condition.arguments, map_error]
    refine or_congr_right ⟨?_, ?_⟩
    · rintro ⟨p, first, fails⟩
      obtain ⟨part, compiled, -⟩ := map_ok.mp first
      obtain fails | ⟨q, -, nothing⟩ := bind_error.mp fails
      · exact ⟨⟨part, compiled⟩, map_error.mp fails⟩
      · cases nothing
    · rintro ⟨⟨part, compiled⟩, fails⟩
      exact ⟨part.args, map_ok.mpr ⟨part, compiled, rfl⟩,
        bind_error.mpr (.inl (map_error.mpr fails))⟩
  · rw [← map_ok, ← Condition.arguments, arguments]
    simp only [bind_ok, Condition.arguments, map_ok, pure_ok]
    constructor
    · rintro ⟨_, ⟨p, first, rfl⟩, _, ⟨q, second, rfl⟩, same⟩
      exact ⟨p, q, first, second, same⟩
    · rintro ⟨p, q, first, second, same⟩
      exact ⟨_, ⟨p, first, rfl⟩, _, ⟨q, second, rfl⟩, same⟩

/-- Conditions with the same truth values, and with the same fault or the same arguments. -/
structure Interchangeable (a b : Condition) : Prop where
  truth : ∀ assignment, a.truth assignment = b.truth assignment
  arguments : a.arguments = b.arguments

/-- A condition combined with others in turn. -/
def chain (first : Condition) (steps : List (Connective × Condition)) : Condition :=
  steps.foldl (fun made step => step.1.join made step.2) first

/-- A condition with others in turn, a new group of two for each of them. -/
def nest (first : Condition) (steps : List (Connective × Condition)) : Condition :=
  steps.foldl (fun made step => group (some step.1) [made, step.2]) first

/-- One more step keeps a chain and its groups interchangeable. -/
theorem Interchangeable.step {a b : Condition} (h : Interchangeable a b) (connective : Connective)
    (next : Condition) :
    Interchangeable (connective.join a next) (group (some connective) [b, next]) := by
  rw [Connective.join_eq]
  constructor
  · intro assignment
    rw [truth_combine, truth_pair, h.truth]
  · rw [arguments_combine, arguments_pair, h.arguments]

theorem Interchangeable.chain {a b : Condition} (h : Interchangeable a b)
    (steps : List (Connective × Condition)) : Interchangeable (a.chain steps) (b.nest steps) := by
  induction steps generalizing a b with
  | nil => exact h
  | cons step rest ih => exact ih (h.step step.1 step.2)

/-- The combinators are conjunction and disjunction, whatever the form of their result, and so a
chain of them can stand for the groups of two that it spells out. -/
theorem combines_join (connective : Connective) (a b : Condition)
    (steps : List (Connective × Condition)) :
    (∀ assignment, a.truth assignment = none ↔ a.comparisons = []) ∧
      Combines connective a b (connective.join a b) ∧
      Combines connective a b (group (some connective) [a, b]) ∧
      Interchangeable (a.chain steps) (a.nest steps) := by
  refine ⟨fun _ => truth_eq_none, ?_, ?_, Interchangeable.chain ⟨fun _ => rfl, rfl⟩ steps⟩
  · rw [Connective.join_eq]
    exact combines_of_eq (truth_combine connective a b) (arguments_combine connective a b)
  · exact combines_of_eq (truth_pair connective a b) (arguments_pair connective a b)

end Condition
end BoundSql
