import BoundSql.Proofs.Condition

/-! Conditions that differ only in their values. What they compile to differs only in the values
that are bound, or else it is one and the same fault. -/
namespace BoundSql
open Outcome

namespace Value

/-- Neither NULL nor a list. -/
def isPlain : Value → Bool
  | null | list _ => false
  | _ => true

/-- Values of one shape: both NULL, both lists of one length, or neither NULL nor a list. -/
inductive Alike : Value → Value → Prop
  | null : Alike null null
  | list {items others : List Value} (h : items.length = others.length) :
      Alike (list items) (list others)
  | plain {v w : Value} (hv : v.isPlain) (hw : w.isPlain) : Alike v w

end Value

/-- Comparisons that differ only in their value, and not in its shape. -/
structure Comparison.Alike (c d : Comparison) : Prop where
  field : c.field = d.field
  operator : c.operator = d.operator
  value : c.value.Alike d.value

/-- Conditions of one form, with alike comparisons. -/
inductive Condition.Alike : Condition → Condition → Prop
  | comparison {c d : Comparison} (h : c.Alike d) : Alike (.comparison c) (.comparison d)
  | group {connective : Option Connective} {members others : List Condition}
      (h : List.Forall₂ Alike members others) :
      Alike (.group connective members) (.group connective others)

namespace Statement

/-- Statements of one text that bind as many values. -/
structure Alike (s t : Statement) : Prop where
  sql : s.sql = t.sql
  size : s.args.length = t.args.length

namespace Alike

theorem refl (s : Statement) : s.Alike s := ⟨rfl, rfl⟩

theorem append {a b c d : Statement} (h : a.Alike b) (h' : c.Alike d) :
    (a ++ c).Alike (b ++ d) := by
  constructor
  · rw [sql_append, sql_append, h.sql, h'.sql]
  · rw [args_append, args_append, List.length_append, List.length_append, h.size, h'.size]

theorem texts {parts others : List Statement} (h : List.Forall₂ Alike parts others) :
    parts.map Statement.sql = others.map Statement.sql := by
  induction h with
  | nil => rfl
  | cons first _ ih => rw [List.map_cons, List.map_cons, first.sql, ih]

theorem sizes {parts others : List Statement} (h : List.Forall₂ Alike parts others) :
    (parts.flatMap Statement.args).length = (others.flatMap Statement.args).length := by
  induction h with
  | nil => rfl
  | cons first _ ih =>
      rw [List.flatMap_cons, List.flatMap_cons, List.length_append, List.length_append, first.size,
        ih]

theorem joined (separator : String) {parts others : List Statement}
    (h : List.Forall₂ Alike parts others) :
    (joined separator parts).Alike (Statement.joined separator others) :=
  ⟨congrArg separator.intercalate (texts h), sizes h⟩

end Alike
end Statement

namespace Comparison

theorem apply_plain {field operator : String} {v : Value} (h : v.isPlain) (op : Operator) :
    apply ⟨field, operator, v⟩ op =
      if op.isUnary then .error (.malformedCondition (.unaryWithValue op.sql field))
      else if op.isMembership then .ok ⟨field ++ " " ++ op.sql ++ " (?)", [v]⟩
      else if op = .between then .error (.malformedCondition (.notTwoBounds field))
      else .ok ⟨field ++ " " ++ op.sql ++ " ?", [v]⟩ := by
  cases v
  case null | list => cases h
  all_goals rfl

theorem apply_alike {c d : Comparison} (h : c.Alike d) (op : Operator) :
    Agree Statement.Alike (c.apply op) (d.apply op) := by
  obtain ⟨field, operator, v⟩ := c
  obtain ⟨_, _, w⟩ := d
  obtain ⟨rfl, rfl, value⟩ := h
  cases value with
  | null => exact .of_eq .refl rfl
  | plain hv hw =>
      rw [apply_plain hv, apply_plain hw]
      exact .ite (.error _) (.ite (.ok ⟨rfl, rfl⟩) (.ite (.error _) (.ok ⟨rfl, rfl⟩)))
  | @list items others size =>
      unfold apply
      refine .ite (.error _) (.ite ?_ (.ite ?_ (.ok ⟨rfl, rfl⟩)))
      · cases items <;> cases others
        case nil.nil => exact .error _
        case cons.cons => exact .ok ⟨by rw [size], size⟩
        all_goals cases size
      · rcases items with _ | ⟨_, _ | ⟨_, _ | _⟩⟩ <;> rcases others with _ | ⟨_, _ | ⟨_, _ | _⟩⟩
        case cons.cons.nil.cons.cons.nil => exact .ok ⟨rfl, rfl⟩
        all_goals first
          | exact .error _
          | cases size

theorem compile_alike {c d : Comparison} (h : c.Alike d) :
    Agree Statement.Alike c.compile d.compile := by
  unfold compile
  rw [← h.field, ← h.operator]
  refine .guard (.guard ?_)
  exact .after _ fun _ => .after _ fun op => apply_alike h op

end Comparison

namespace Condition

theorem compile_alike {a b : Condition} (h : a.Alike b) :
    Agree Statement.Alike a.compile b.compile := by
  induction a using induct generalizing b with
  | comparison c =>
      cases h with
      | comparison h =>
          rw [compile_comparison, compile_comparison]
          exact Comparison.compile_alike h
  | group connective members ih =>
      cases h with
      | @group _ _ others h =>
          rw [compile_group, compile_group]
          have each : List.Forall₂ (fun m n => m ∈ members ∧ m.Alike n) members others :=
            (List.forall₂_and_left _ _).mpr ⟨fun m hm => hm, h⟩
          refine (Agree.mapM (fun m n hm => ih m hm.1 hm.2) each).map fun parts others alike => ?_
          exact ⟨congrArg (enclosed connective) (Statement.Alike.texts alike),
            Statement.Alike.sizes alike⟩

theorem whereClause_alike {a b : Option Condition} (h : Option.Rel Alike a b) :
    Agree Statement.Alike (whereClause a) (whereClause b) := by
  cases h with
  | none => exact .ok (.refl _)
  | some h =>
      refine (compile_alike h).bind fun part other alike => ?_
      rw [← alike.sql]
      by_cases empty : part.sql = ""
      · rw [if_pos empty, if_pos empty]
        exact .ok alike
      · rw [if_neg empty, if_neg empty]
        exact .ok ((Statement.Alike.refl _).append alike)

end Condition
end BoundSql
