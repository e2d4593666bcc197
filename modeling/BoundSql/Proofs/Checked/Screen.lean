import BoundSql.Proofs.Outcome

/-! Outcomes of checks that are made in turn. The first check that finds a fault decides. -/
namespace BoundSql.Outcome

variable {ε α β κ : Type}

def fault? : Except ε α → Option ε
  | .error e => some e
  | .ok _ => none

/-- An outcome that checks decide: it is the first fault that they find in their order, and a value
when they find none. -/
def Screened (check : κ → Option ε) (checks : List κ) (x : Except ε α) : Prop :=
  fault? x = checks.findSome? check

namespace Screened

variable {check : κ → Option ε} {checks more : List κ} {x : Except ε α}

theorem ok (a : α) : Screened check [] (.ok a : Except ε α) := rfl

theorem single {c : κ} (h : fault? x = check c) : Screened check [c] x := by
  rw [Screened, h, List.findSome?_singleton]

theorem ite {c : κ} {p : Prop} [Decidable p] {a : α} {e : ε}
    (h : check c = if p then none else some e) :
    Screened check [c] (if p then .ok a else .error e) := by
  apply single
  rw [h]
  by_cases pass : p
  · rw [if_pos pass, if_pos pass]
    rfl
  · rw [if_neg pass, if_neg pass]
    rfl

theorem bind {f : α → Except ε β} (h : Screened check checks x)
    (next : ∀ a, x = .ok a → Screened check more (f a)) :
    Screened check (checks ++ more) (x >>= f) := by
  unfold Screened at *
  rw [List.findSome?_append, ← h]
  cases x with
  | error e => rfl
  | ok a => exact next a rfl

theorem map (h : Screened check checks x) (f : α → β) : Screened check checks (x.map f) := by
  cases x with
  | error e => exact h
  | ok a => exact h

/-- What is made of the value last has no fault of its own. -/
theorem bind_ok (h : Screened check checks x) (f : α → β) :
    Screened check checks (x >>= fun a => Pure.pure (f a)) := by
  cases x with
  | error e => exact h
  | ok a => exact h

theorem mapM {f : α → Except ε β} {checksOf : α → List κ} {xs : List α}
    (each : ∀ a ∈ xs, Screened check (checksOf a) (f a)) :
    Screened check (xs.flatMap checksOf) (xs.mapM f) := by
  induction xs with
  | nil => exact ok _
  | cons a rest ih =>
      obtain ⟨first, later⟩ := List.forall_mem_cons.mp each
      rw [List.mapM_cons, List.flatMap_cons]
      apply first.bind
      intro b _
      exact (ih later).bind_ok _

/-- Checks that are of another kind underneath. -/
theorem of_map {ι : Type} {g : ι → κ} {checks : List ι}
    (h : Screened (check ∘ g) checks x) : Screened check (checks.map g) x := by
  rw [Screened, List.findSome?_map]
  exact h

theorem exists_ok_iff (h : Screened check checks x) :
    (∃ a, x = .ok a) ↔ ∀ c ∈ checks, check c = none := by
  rw [← List.findSome?_eq_none_iff, ← h]
  cases x <;> simp [fault?]

theorem eq_error_iff (h : Screened check checks x) {e : ε} :
    x = .error e ↔ ∃ before c after, checks = before ++ c :: after ∧
      (∀ b ∈ before, check b = none) ∧ check c = some e := by
  have found : x = .error e ↔ checks.findSome? check = some e := by
    rw [← h]
    cases x <;> simp [fault?]
  rw [found, List.findSome?_eq_some_iff]
  constructor
  · rintro ⟨before, c, after, split, fails, pass⟩
    exact ⟨before, c, after, split, pass, fails⟩
  · rintro ⟨before, c, after, split, pass, fails⟩
    exact ⟨before, c, after, split, fails, pass⟩

end Screened
end BoundSql.Outcome
