import BoundSql.Proofs.Condition
import BoundSql.Proofs.Shape.Fields

/-! Values and conditions that are written and read again. -/
namespace BoundSql

mutual

/-- Whether a value is no real number and holds none. -/
def Value.isRealFree : Value → Bool
  | .real _ => false
  | .list items => realFreeAll items
  | _ => true

def Value.realFreeAll : List Value → Bool
  | [] => true
  | v :: rest => v.isRealFree && realFreeAll rest

end

theorem Value.realFreeAll_iff {values : List Value} :
    realFreeAll values ↔ ∀ v ∈ values, v.isRealFree := by
  induction values with
  | nil => simp [realFreeAll]
  | cons v rest ih => rw [realFreeAll, Bool.and_eq_true, ih, List.forall_mem_cons]

/-- The values of a condition from left to right. -/
def Condition.values (condition : Condition) : List Value :=
  condition.comparisons.map (·.value)

namespace Shape
open Node

theorem wholeValue?_toInt (n : Int64) : wholeValue? n.toInt = some (.integer n) := by
  have low := n.le_toInt
  have high := n.toInt_lt
  rw [wholeValue?, if_pos (by omega), Int64.ofInt_toInt]

theorem ofValues_eq (items : List Value) : ofValues items = items.map ofValue := by
  induction items with
  | nil => rfl
  | cons v rest ih => rw [ofValues, ih, List.map_cons]

mutual

theorem value?_ofValue : ∀ v : Value, value? (ofValue v) = some v
  | .null => rfl
  | .bool _ => rfl
  | .integer n => wholeValue?_toInt n
  | .real _ => rfl
  | .text _ => rfl
  | .list items => by rw [ofValue, value?, values?_ofValues items, Option.map_some]

theorem values?_ofValues : ∀ items : List Value, values? (ofValues items) = some items
  | [] => rfl
  | v :: rest => by rw [ofValues, values?, value?_ofValue v, values?_ofValues rest]

end

mutual

theorem isReadable_ofValue : ∀ v : Value, (ofValue v).isReadable
  | .null => rfl
  | .bool _ => rfl
  | .integer _ => rfl
  | .real _ => rfl
  | .text _ => rfl
  | .list items => by
      rw [ofValue, isReadable]
      exact allReadable_ofValues items

theorem allReadable_ofValues : ∀ items : List Value, allReadable (ofValues items)
  | [] => rfl
  | v :: rest => by
      rw [ofValues, allReadable, isReadable_ofValue v, allReadable_ofValues rest]
      rfl

end

mutual

theorem plain_ofValue : ∀ v : Value, v.isRealFree → Plain (ofValue v)
  | .null, _ => .null
  | .bool b, _ => .bool b
  | .integer n, _ => .whole n.le_toInt (by have high := n.toInt_lt; omega)
  | .text s, _ => .text s
  | .list items, h => .list (plain_ofValues items h)

theorem plain_ofValues :
    ∀ items : List Value, Value.realFreeAll items → ∀ n ∈ ofValues items, Plain n
  | [], _ => List.forall_mem_nil _
  | v :: rest, h => by
      rw [Value.realFreeAll, Bool.and_eq_true] at h
      exact List.forall_mem_cons.mpr ⟨plain_ofValue v h.1, plain_ofValues rest h.2⟩

end

theorem ofConditions_eq (members : List Condition) :
    ofConditions members = members.map ofCondition := by
  induction members with
  | nil => rfl
  | cons m rest ih => rw [ofConditions, ih, List.map_cons]

theorem ofCondition_group (connective : Option Connective) (members : List Condition) :
    ofCondition (.group connective members) = .table (record groupNames
      [connective.map ofConnective, some (.list (members.map ofCondition))]) := by
  rw [ofCondition, ofConditions_eq]
  cases connective <;> rfl

theorem ofCondition_comparison (c : Comparison) :
    ofCondition (.comparison c) = .table (record [["field"], ["operator"], ["value"]]
      [some (.text c.field), some (.text c.operator), some (ofValue c.value)]) :=
  rfl

theorem comparison?_ofCondition (c : Comparison) :
    comparison? (ofCondition (.comparison c)) = some c := by
  rw [ofCondition_comparison, comparison?, fields?_record (by decide) rfl]
  simp [text?, value?_ofValue]

/-- A group has none of the fields that a comparison must have. -/
theorem comparison?_group (connective : Option Connective) (members : List Condition) :
    comparison? (ofCondition (.group connective members)) = none := by
  rw [ofCondition_group]
  cases connective <;> simp [comparison?, fields?, record, field?, groupNames, required]

theorem connective?_ofConnective (c : Connective) : connective? (ofConnective c) = some c := by
  cases c <;> rfl

theorem conditionWithin_ofCondition (condition : Condition) {depth : Nat}
    (room : (ofCondition condition).depth < depth) :
    conditionWithin depth (ofCondition condition) = some condition := by
  induction condition using Condition.induct generalizing depth with
  | comparison c =>
      obtain ⟨k, rfl⟩ := Nat.exists_eq_succ_of_ne_zero (Nat.ne_zero_of_lt room)
      rw [conditionWithin, comparison?_ofCondition]
  | group connective members ih =>
      obtain ⟨k, rfl⟩ := Nat.exists_eq_succ_of_ne_zero (Nat.ne_zero_of_lt room)
      have connectives : optional connective? (connective.map ofConnective) = some connective :=
        optional_map fun c _ => ⟨connective?_ofConnective c, nofun⟩
      have inside :
          listOf (conditionWithin k) (.list (members.map ofCondition)) = some members := by
        refine listOf_map fun m hm => ih m hm ?_
        -- A member lies two levels deeper, in the list and in the table around that.
        have first := depth_lt_list _ (List.mem_map_of_mem (f := ofCondition) hm)
        rw [ofCondition_group] at room
        have second := room.trans_le' (depth_lt_record rfl (n := .list (members.map ofCondition))
          (List.mem_cons_of_mem _ List.mem_cons_self))
        omega
      have closed : isClosed groupNames (ofCondition (.group connective members)) = true := by
        rw [ofCondition_group]
        cases connective <;> rfl
      rw [conditionWithin, comparison?_group, closed, ofCondition_group,
        fields?_record (by decide) rfl]
      simp [connectives, inside]

theorem isReadable_ofCondition (condition : Condition) : (ofCondition condition).isReadable := by
  induction condition using Condition.induct with
  | comparison c => simp [ofCondition, isReadable, entriesReadable, isReadable_ofValue]
  | group connective members ih =>
      rw [ofCondition_group]
      have inside : (Node.list (members.map ofCondition)).isReadable :=
        isReadable_list.mpr (List.forall_mem_map.mpr ih)
      refine isReadable_record ⟨fun n hn => ?_, fun n hn => ?_⟩
      · obtain ⟨c, -, rfl⟩ := Option.map_eq_some_iff.mp hn
        rfl
      · cases hn
        exact inside

theorem condition?_ofCondition (condition : Condition) :
    condition? (ofCondition condition) = some condition := by
  rw [condition?, if_pos (isReadable_ofCondition condition)]
  exact conditionWithin_ofCondition condition (Nat.lt_succ_self _)

theorem optional_condition (filter : Option Condition) :
    optional condition? (filter.map ofCondition) = some filter :=
  optional_map fun condition _ => ⟨condition?_ofCondition condition, by
    cases condition <;> simp [ofCondition]⟩

theorem plain_ofCondition {condition : Condition}
    (h : ∀ v ∈ condition.values, v.isRealFree) : Plain (ofCondition condition) := by
  induction condition using Condition.induct with
  | comparison c =>
      have value : Plain (ofValue c.value) := plain_ofValue _ (h _ List.mem_cons_self)
      rw [ofCondition_comparison]
      exact plain_record ⟨plain_text _, plain_text _, plain_some value⟩
  | group connective members ih =>
      rw [Condition.values, Condition.comparisons_group, List.forall_mem_map,
        List.forall_mem_flatMap] at h
      have inside : ∀ m ∈ members, Plain (ofCondition m) := fun m hm =>
        ih m hm (List.forall_mem_map.mpr (h m hm))
      rw [ofCondition_group]
      exact plain_record ⟨plain_map fun c _ => .text c.sql, plain_some (plain_list inside)⟩

theorem plain_filter {filter : Option Condition}
    (h : ∀ v ∈ filter.elim [] Condition.values, v.isRealFree) :
    ∀ condition ∈ filter, Plain (ofCondition condition) := by
  rintro condition rfl
  exact plain_ofCondition h

end Shape
end BoundSql
