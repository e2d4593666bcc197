import BoundSql.Proofs.Checked.Screen
import BoundSql.Proofs.Condition

/-! The faults of conditions. Each comparison has its own, and a condition has that of the first
comparison with one. -/
namespace BoundSql
open Outcome

namespace Text

/-- White space only, or nothing. -/
def Blank (s : String) : Prop := ∀ c ∈ s.toList, isBlank c

instance (s : String) : Decidable (Blank s) := inferInstanceAs (Decidable (∀ c ∈ s.toList, _))

theorem trim_eq_empty {s : String} : trim s = "" ↔ Blank s := by
  constructor
  · exact blank_of_trim
  · intro blank
    have nothing : s.toList.dropWhile isBlank = [] := List.dropWhile_eq_nil_iff.mpr blank
    rw [trim, trimmed, nothing]
    rfl

end Text

namespace Operator

/-- What is wrong with a value that does not fit an operator. -/
def mismatch (op : Operator) (field : String) : ComparisonFault :=
  if op.isUnary then .unaryWithValue op.sql field
  else if op.isMembership then .noMembers op.sql field
  else .notTwoBounds field

end Operator

namespace Comparison

/-- What is wrong with a comparison, the first of several things. -/
def fault? (c : Comparison) : Option Fault :=
  if c.field = "" then some (.malformedCondition (.noField c.operator))
  else if Text.Blank c.operator then some (.malformedCondition (.noOperator c.field))
  else if Name.isColumn c.field.toList then
    match Operator.parse c.operator with
    | .error _ => some (.invalidOperator c.operator)
    | .ok op => if op.fits c.value then none else some (.malformedCondition (op.mismatch c.field))
  else some (.invalidIdentifier c.field)

theorem fault?_apply (c : Comparison) (op : Operator) :
    Outcome.fault? (c.apply op) =
      if op.fits c.value then none else some (.malformedCondition (op.mismatch c.field)) := by
  by_cases fits : op.fits c.value
  · rw [if_pos fits, apply_ok.mpr ⟨fits, rfl⟩]
    rfl
  · rw [if_neg fits]
    obtain ⟨field, operator, value⟩ := c
    cases op
    case isNull | isNotNull =>
        cases value
        case null => exact absurd rfl fits
        all_goals rfl
    case isIn | notIn =>
        rcases value with _ | _ | _ | _ | _ | (_ | ⟨item, items⟩)
        case list.nil => rfl
        all_goals exact absurd rfl fits
    case between =>
        rcases value with _ | _ | _ | _ | _ | (_ | ⟨low, _ | ⟨high, _ | ⟨more, items⟩⟩⟩)
        case list.cons.cons.nil => exact absurd rfl fits
        all_goals rfl
    all_goals exact absurd rfl fits

theorem fault?_compile (c : Comparison) : Outcome.fault? c.compile = c.fault? := by
  unfold compile fault?
  by_cases field : c.field = ""
  · rw [if_pos field, if_pos field]
    rfl
  by_cases operator : Text.Blank c.operator
  · rw [if_neg field, if_neg field, if_pos operator, if_pos (Text.trim_eq_empty.mpr operator)]
    rfl
  rw [if_neg field, if_neg field, if_neg operator, if_neg (mt Text.trim_eq_empty.mp operator)]
  by_cases column : Name.isColumn c.field.toList
  · have accepted : Name.checkColumn c.field = .ok () := Name.checkColumn_ok.mpr column
    rw [if_pos column, accepted]
    cases parsed : Operator.parse c.operator with
    | error fault =>
        obtain rfl := Operator.parse_error parsed
        rfl
    | ok op => exact fault?_apply c op
  · rw [if_neg column, Name.checkColumn, if_neg column]
    rfl

end Comparison

theorem Condition.compile_screened (condition : Condition) :
    Screened Comparison.fault? condition.comparisons condition.compile := by
  induction condition using induct with
  | comparison c =>
      rw [compile_comparison, Screened, Comparison.fault?_compile, comparisons]
      simp
  | group connective members ih =>
      rw [compile_group, comparisons_group]
      exact (Screened.mapM ih).map _

end BoundSql
