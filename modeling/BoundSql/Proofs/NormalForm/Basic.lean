import BoundSql.Proofs.Condition

/-! Normal forms of conditions: what remains of a condition without all that its text and its
arguments do not show. -/
namespace BoundSql
open Outcome

/-- A condition whose operators have been read. -/
inductive NormalForm where
  | comparison (field : String) (op : Option Operator) (value : Value)
  | group (connective : Option Connective) (members : List NormalForm)

/-- A value as the members of a list, a single one if it is no list. -/
def Value.asMembers : Value → Value
  | list items => list items
  | value => list [value]

def Operator.normalValue (op : Operator) (value : Value) : Value :=
  if op.isMembership then value.asMembers else value

def Comparison.normal (c : Comparison) : NormalForm :=
  match Operator.parse c.operator with
  | .ok op => .comparison c.field (some op) (op.normalValue c.value)
  | .error _ => .comparison c.field none c.value

/-- The connective between members, which only shows where there are two. -/
def Connective.between {α : Type} (connective : Option Connective) : List α → Option Connective
  | _ :: _ :: _ => some (connective.getD .and)
  | _ => none

namespace Condition

mutual

def normal : Condition → NormalForm
  | comparison c => c.normal
  | group connective members =>
    let kept := normalAll members
    .group (Connective.between connective kept) kept

/-- The normal forms of the conditions that hold a comparison. -/
def normalAll : List Condition → List NormalForm
  | [] => []
  | m :: rest => if m.live then m.normal :: normalAll rest else normalAll rest

end

theorem normalAll_eq (members : List Condition) :
    normalAll members = (members.filter live).map normal := by
  induction members with
  | nil => rfl
  | cons m rest ih =>
      rw [normalAll, List.filter_cons, ih]
      split <;> rfl

end Condition

theorem Comparison.normal_of_parse {c : Comparison} {op : Operator}
    (h : Operator.parse c.operator = .ok op) :
    c.normal = .comparison c.field (some op) (op.normalValue c.value) := by
  unfold Comparison.normal
  rw [h]

namespace NormalForm

mutual

def statement : NormalForm → Statement
  | comparison field (some op) value => Comparison.fragment ⟨field, op.sql, value⟩ op
  | comparison _ none _ => .raw ""
  | group connective members => Condition.gathered connective (statements members)

def statements : List NormalForm → List Statement
  | [] => []
  | n :: rest => n.statement :: statements rest

end

theorem statements_eq (members : List NormalForm) :
    statements members = members.map statement := by
  induction members with
  | nil => rfl
  | cons n rest ih => rw [statements, ih, List.map_cons]

end NormalForm

namespace Operator

theorem bound_normalValue (op : Operator) (value : Value) :
    op.bound (op.normalValue value) = op.bound value := by
  cases op
  case isIn | notIn => cases value <;> rfl
  all_goals rfl

theorem operand_normalValue (op : Operator) (form : Value → String) (value : Value) :
    op.operand form (op.normalValue value) = op.operand form value := by
  cases op
  case isIn | notIn =>
      cases value
      case list => rfl
      all_goals simp [normalValue, isMembership, Value.asMembers, operand]
  all_goals rfl

/-- The normal form of a value, told from the values that it binds. -/
def restored : Operator → List Value → Value
  | .isNull, _ | .isNotNull, _ => .null
  | .isIn, values | .notIn, values | .between, values => .list values
  | _, values => values.headD .null

theorem normalValue_eq {op : Operator} {value : Value} (fits : op.fits value) :
    op.normalValue value = op.restored (op.bound value) := by
  cases op
  case isNull | isNotNull =>
      cases value
      case null => rfl
      all_goals cases fits
  case isIn | notIn => cases value <;> rfl
  case between =>
      cases value
      case list => rfl
      all_goals cases fits
  all_goals rfl

end Operator

namespace Condition

/-- One part alone is gathered under any connective alike. -/
theorem gathered_between (connective : Option Connective) (parts : List Statement) :
    gathered (Connective.between connective parts) parts = gathered connective parts := by
  rcases parts with _ | ⟨first, _ | ⟨second, rest⟩⟩
  · rfl
  · simp [gathered, Connective.between, Statement.joined]
  · rfl

theorem between_map {α β : Type} (connective : Option Connective) (f : α → β) (xs : List α) :
    Connective.between connective (xs.map f) = Connective.between connective xs := by
  rcases xs with _ | ⟨_, _ | ⟨_, _⟩⟩ <;> rfl

/-- A condition compiles to the statement of its normal form. -/
theorem statement_normal {condition : Condition} {part : Statement}
    (h : condition.compile = .ok part) : condition.normal.statement = part := by
  induction condition using induct generalizing part with
  | comparison c =>
      rw [compile_comparison] at h
      obtain ⟨-, op, parsed, -, rfl⟩ := Comparison.compile_ok.mp h
      rw [normal, Comparison.normal_of_parse parsed, NormalForm.statement, Comparison.fragment,
        Operator.operand_normalValue, Operator.bound_normalValue]
      rfl
  | group connective members ih =>
      obtain ⟨parts, shown, rfl⟩ := compile_group_ok h
      have each : (members.filter live).map (fun m => m.normal.statement) = parts := by
        have inside : ∀ m ∈ members.filter live, m ∈ members := fun m hm =>
          (List.mem_filter.mp hm).1
        rw [← List.forall₂_eq_eq_eq, List.forall₂_map_left_iff]
        exact ((List.forall₂_and_left _ _).mpr ⟨inside, shown⟩).imp
          fun m p hp => ih m hp.1 hp.2.compiled
      rw [normal, normalAll_eq, NormalForm.statement, NormalForm.statements_eq, List.map_map]
      rw [between_map, ← between_map connective (fun m => m.normal.statement)]
      exact each ▸ gathered_between connective _

/-- All conditions without a comparison have one normal form. -/
theorem normal_of_not_live {condition : Condition} (h : condition.live = false) :
    condition.normal = .group none [] := by
  cases condition with
  | comparison c => cases h
  | group connective members =>
      rw [live_group, List.any_eq_false] at h
      rw [normal, normalAll_eq, List.filter_eq_nil_iff.mpr h]
      rfl

end Condition
end BoundSql
