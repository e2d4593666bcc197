import Mathlib.Data.List.Induction
import BoundSql.Proofs.Meaning.Truth

/-! Conditions put together under a connective. Whether or not the first of them takes the second
as one more member, comparisons, arguments and meaning are those of the two in turn. -/
namespace BoundSql
open Outcome

namespace Condition

theorem live_eq_false {condition : Condition} :
    condition.live = false ↔ condition.comparisons = [] := by
  simp [live]

theorem comparisons_live (members : List Condition) :
    (members.filter live).flatMap comparisons = members.flatMap comparisons := by
  induction members with
  | nil => rfl
  | cons m rest ih =>
      cases held : m.live with
      | false =>
          rw [List.filter_cons_of_neg (by simp [held]), ih, List.flatMap_cons,
            live_eq_false.mp held, List.nil_append]
      | true => rw [List.filter_cons_of_pos held, List.flatMap_cons, ih, List.flatMap_cons]

theorem compile_group_parts {connective : Option Connective} {members : List Condition}
    {part : Statement} :
    (group connective members).compile = .ok part ↔ ∃ parts,
      List.Forall₂ (fun m p => m.compile = .ok p) members parts ∧
        ⟨enclosed connective (parts.map Statement.sql), parts.flatMap Statement.args⟩ = part := by
  simp only [compile_group, map_ok, mapM_ok]

/-- The two forms of a combination. -/
theorem combine_cases (connective : Connective) (a b : Condition) :
    a.combine connective b = group (some connective) [a, b] ∨
      ∃ given members, a = group given members ∧ given.getD .and = connective ∧
        a.combine connective b = group given (members ++ [b]) := by
  cases a with
  | comparison c => exact .inl rfl
  | group given members =>
      by_cases same : given.getD .and = connective
      · exact .inr ⟨given, members, rfl, same, by simp only [combine, if_pos same]⟩
      · exact .inl (by simp only [combine, if_neg same])

variable (connective : Connective) (a b : Condition)

theorem comparisons_combine :
    (a.combine connective b).comparisons = a.comparisons ++ b.comparisons := by
  obtain made | ⟨given, members, rfl, -, made⟩ := combine_cases connective a b
  · rw [made, comparisons_group]
    simp
  · rw [made, comparisons_group, comparisons_group]
    simp

theorem truth_pair (assignment : Assignment) :
    (group (some connective) [a, b]).truth assignment =
      Option.merge connective.truth (a.truth assignment) (b.truth assignment) := by
  rw [truth, truthAll_eq]
  cases ha : a.truth assignment <;> cases hb : b.truth assignment <;> simp [ha, hb]

theorem truth_combine (assignment : Assignment) :
    (a.combine connective b).truth assignment =
      Option.merge connective.truth (a.truth assignment) (b.truth assignment) := by
  obtain made | ⟨given, members, rfl, rfl, made⟩ := combine_cases connective a b
  · rw [made, truth_pair]
  · rw [made, truth, truth, truthAll_eq, truthAll_eq, List.filterMap_append]
    generalize members.filterMap (truth assignment) = truths
    cases hb : b.truth assignment <;> cases truths <;> simp [hb]

variable {connective a b}

/-- A combination compiles only if both of its sides do, and binds what they bind in turn. -/
theorem compile_combine {part : Statement} (h : (a.combine connective b).compile = .ok part) :
    ∃ p q, a.compile = .ok p ∧ b.compile = .ok q ∧ part.args = p.args ++ q.args := by
  obtain made | ⟨given, members, rfl, -, made⟩ := combine_cases connective a b
  · rw [made] at h
    obtain ⟨parts, compiled, rfl⟩ := compile_group_parts.mp h
    obtain ⟨p, later, hp, hlater, rfl⟩ := List.forall₂_cons_left_iff.mp compiled
    obtain ⟨q, none, hq, hnone, rfl⟩ := List.forall₂_cons_left_iff.mp hlater
    cases hnone
    exact ⟨p, q, hp, hq, by simp⟩
  · rw [made, compile_group, List.mapM_append] at h
    obtain ⟨parts, compiled, rfl⟩ := map_ok.mp h
    obtain ⟨before, hbefore, compiled⟩ := bind_ok.mp compiled
    obtain ⟨after, hafter, compiled⟩ := bind_ok.mp compiled
    obtain ⟨q, none, hq, hnone, rfl⟩ := List.forall₂_cons_left_iff.mp (mapM_ok.mp hafter)
    cases hnone
    cases pure_ok.mp compiled
    exact ⟨_, q, compile_group_parts.mpr ⟨before, mapM_ok.mp hbefore, rfl⟩, hq, by simp⟩

end Condition
end BoundSql
