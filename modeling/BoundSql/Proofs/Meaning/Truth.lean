import BoundSql.Proofs.Condition

/-! What a condition means: a truth value of three, as comparisons with NULL have it. -/
namespace BoundSql

inductive Truth where
  | no
  | unknown
  | yes
deriving DecidableEq

namespace Truth

def and : Truth → Truth → Truth
  | no, _ | _, no => no
  | yes, other | other, yes => other
  | unknown, unknown => unknown

def or : Truth → Truth → Truth
  | yes, _ | _, yes => yes
  | no, other | other, no => other
  | unknown, unknown => unknown

end Truth

/-- How a connective combines the truth values of two members. -/
def Connective.truth : Connective → Truth → Truth → Truth
  | and => Truth.and
  | or => Truth.or

/-- A truth value for each column, operator and list of bound values. -/
abbrev Assignment := String → Operator → List Value → Truth

def Comparison.truth (assignment : Assignment) (c : Comparison) : Truth :=
  match Operator.parse c.operator with
  | .ok op => assignment c.field op (op.bound c.value)
  | .error _ => .unknown

theorem Comparison.truth_of_parse {assignment : Assignment} {c : Comparison} {op : Operator}
    (h : Operator.parse c.operator = .ok op) :
    c.truth assignment = assignment c.field op (op.bound c.value) := by
  unfold Comparison.truth
  rw [h]

namespace Condition

mutual

/-- The truth value of a condition. A group has that of its members together, those skipped that
hold no comparison, and none when it holds no comparison itself. -/
def truth (assignment : Assignment) : Condition → Option Truth
  | comparison c => some (c.truth assignment)
  | group connective members =>
    match truthAll assignment members with
    | [] => none
    | first :: rest => some (rest.foldl (connective.getD .and).truth first)

def truthAll (assignment : Assignment) : List Condition → List Truth
  | [] => []
  | m :: rest => (m.truth assignment).toList ++ truthAll assignment rest

end

theorem truthAll_eq (assignment : Assignment) (members : List Condition) :
    truthAll assignment members = members.filterMap (truth assignment) := by
  induction members with
  | nil => rfl
  | cons m rest ih =>
      rw [truthAll, ih, List.filterMap_cons]
      cases m.truth assignment <;> rfl

/-- Only a condition that holds a comparison has a truth value. -/
theorem truth_of_not_live (assignment : Assignment) {condition : Condition}
    (h : condition.live = false) : condition.truth assignment = none := by
  induction condition using induct with
  | comparison c => cases h
  | group connective members ih =>
      rw [live_group, List.any_eq_false] at h
      have skipped : members.filterMap (truth assignment) = [] :=
        List.filterMap_eq_nil_iff.mpr fun m hm => ih m hm (by simpa using h m hm)
      rw [truth, truthAll_eq, skipped]

theorem truthAll_live (assignment : Assignment) (members : List Condition) :
    truthAll assignment members = truthAll assignment (members.filter live) := by
  induction members with
  | nil => rfl
  | cons m rest ih =>
      cases held : m.live with
      | false =>
          rw [truthAll, truth_of_not_live assignment held,
            List.filter_cons_of_neg (by simp [held])]
          exact ih
      | true => rw [truthAll, List.filter_cons_of_pos held, truthAll, ih]

end Condition
end BoundSql
