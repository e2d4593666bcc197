import Mathlib.Data.List.Forall2
import BoundSql.Fault

/-! Outcomes that are a value or a fault: what a successful one went through, and when two of
them agree. -/
namespace BoundSql.Outcome

variable {ε α β γ δ : Type}

theorem bind_ok {x : Except ε α} {f : α → Except ε β} {b : β} :
    x >>= f = .ok b ↔ ∃ a, x = .ok a ∧ f a = .ok b := by
  cases x <;> simp [bind, Except.bind]

theorem map_ok {x : Except ε α} {f : α → β} {b : β} :
    x.map f = .ok b ↔ ∃ a, x = .ok a ∧ f a = b := by
  cases x <;> simp [Except.map]

theorem bind_error {x : Except ε α} {f : α → Except ε β} {e : ε} :
    x >>= f = .error e ↔ x = .error e ∨ ∃ a, x = .ok a ∧ f a = .error e := by
  cases x <;> simp [bind, Except.bind]

theorem map_error {x : Except ε α} {f : α → β} {e : ε} : x.map f = .error e ↔ x = .error e := by
  cases x <;> simp [Except.map]

theorem pure_ok {a b : α} : (pure a : Except ε α) = .ok b ↔ a = b := by
  simp [pure, Except.pure]

theorem pure_error {a : α} {e : ε} : (pure a : Except ε α) = .error e ↔ False := by
  simp [pure, Except.pure]

theorem throw_ok {e : ε} {a : α} : (throw e : Except ε α) = .ok a ↔ False := by
  simp [throw, throwThe, MonadExceptOf.throw]

/-- What comes after a guard is reached only if the guard lets it through. -/
theorem guard_ok {p : Prop} [Decidable p] {e : ε} {f : Unit → Except ε β} {b : β} :
    (if p then throw e >>= f else f ()) = .ok b ↔ ¬ p ∧ f () = .ok b := by
  by_cases h : p
  · rw [if_pos h, bind_ok]
    simp only [throw_ok, false_and, exists_false, h, not_true_eq_false]
  · rw [if_neg h]
    exact (and_iff_right h).symm

theorem guard_error {p : Prop} [Decidable p] {e fault : ε} {f : Unit → Except ε β} :
    (if p then throw e >>= f else f ()) = .error fault ↔
      (p ∧ e = fault) ∨ (¬ p ∧ f () = .error fault) := by
  by_cases h : p
  · rw [if_pos h]
    simp [h, throw, throwThe, MonadExceptOf.throw, bind, Except.bind]
  · rw [if_neg h]
    simp [h]

/-- A traversal succeeds exactly when every element does, each with its own result. -/
theorem mapM_ok {f : α → Except ε β} {xs : List α} {ys : List β} :
    xs.mapM f = .ok ys ↔ List.Forall₂ (fun x y => f x = .ok y) xs ys := by
  induction xs generalizing ys with
  | nil =>
      rw [List.mapM_nil, pure_ok, List.forall₂_nil_left_iff]
      exact eq_comm
  | cons x xs ih =>
      rw [List.mapM_cons, bind_ok, List.forall₂_cons_left_iff]
      constructor
      · rintro ⟨y, hy, h⟩
        obtain ⟨zs, hzs, h⟩ := bind_ok.mp h
        exact ⟨y, zs, hy, ih.mp hzs, (pure_ok.mp h).symm⟩
      · rintro ⟨y, zs, hy, hzs, rfl⟩
        exact ⟨y, hy, bind_ok.mpr ⟨zs, ih.mpr hzs, rfl⟩⟩

/-- What a relation says of its right-hand side holds of every element there. -/
theorem forall_right {R : α → β → Prop} {P : β → Prop} (each : ∀ a b, R a b → P b)
    {xs : List α} {ys : List β} (h : List.Forall₂ R xs ys) : ∀ y ∈ ys, P y := by
  induction h with
  | nil => exact List.forall_mem_nil P
  | cons hxy _ ih => exact List.forall_mem_cons.mpr ⟨each _ _ hxy, ih⟩

theorem exists_right {R : α → β → Prop} {xs : List α} {ys : List β} (h : List.Forall₂ R xs ys)
    {x : α} (member : x ∈ xs) : ∃ y ∈ ys, R x y := by
  induction h with
  | nil => cases member
  | cons hxy _ ih =>
      cases member with
      | head => exact ⟨_, List.mem_cons_self, hxy⟩
      | tail _ later =>
          obtain ⟨y, listed, related⟩ := ih later
          exact ⟨y, List.mem_cons_of_mem _ listed, related⟩

/-- Two outcomes agree up to a relation: both are the same fault, or both are values that the
relation holds of. -/
inductive Agree (R : α → β → Prop) : Except ε α → Except ε β → Prop
  | error (e : ε) : Agree R (.error e) (.error e)
  | ok {a : α} {b : β} : R a b → Agree R (.ok a) (.ok b)

theorem Agree.of_eq {R : α → α → Prop} (refl : ∀ a, R a a) {x y : Except ε α} (h : x = y) :
    Agree R x y := by
  subst h
  cases x with
  | error e => exact .error e
  | ok a => exact .ok (refl a)

theorem Agree.bind {R : α → β → Prop} {S : γ → δ → Prop} {x : Except ε α} {y : Except ε β}
    {f : α → Except ε γ} {g : β → Except ε δ} (h : Agree R x y)
    (next : ∀ a b, R a b → Agree S (f a) (g b)) : Agree S (x >>= f) (y >>= g) := by
  cases h with
  | error e => exact .error e
  | ok hab => exact next _ _ hab

/-- A check that is the same on both sides leaves the rest to agree. -/
theorem Agree.after {S : γ → δ → Prop} (x : Except ε α) {f : α → Except ε γ}
    {g : α → Except ε δ} (next : ∀ a, Agree S (f a) (g a)) : Agree S (x >>= f) (x >>= g) :=
  (Agree.of_eq (R := Eq) (fun _ => rfl) rfl).bind fun a _ h => h ▸ next a

theorem Agree.ite {S : γ → δ → Prop} {p : Prop} [Decidable p] {x x' : Except ε γ}
    {y y' : Except ε δ} (yes : Agree S x y) (no : Agree S x' y') :
    Agree S (if p then x else x') (if p then y else y') := by
  split
  · exact yes
  · exact no

/-- A guard that is the same on both sides, likewise. -/
theorem Agree.guard {S : γ → δ → Prop} {p : Prop} [Decidable p] {e : ε} {f : Unit → Except ε γ}
    {g : Unit → Except ε δ} (next : Agree S (f ()) (g ())) :
    Agree S (if p then throw e >>= f else f ()) (if p then throw e >>= g else g ()) :=
  .ite (.error e) next

theorem Agree.map {R : α → β → Prop} {S : γ → δ → Prop} {x : Except ε α} {y : Except ε β}
    {f : α → γ} {g : β → δ} (h : Agree R x y) (next : ∀ a b, R a b → S (f a) (g b)) :
    Agree S (x.map f) (y.map g) := by
  cases h with
  | error e => exact .error e
  | ok hab => exact .ok (next _ _ hab)

theorem Agree.mapM {P : α → β → Prop} {R : γ → δ → Prop} {f : α → Except ε γ}
    {g : β → Except ε δ} (each : ∀ a b, P a b → Agree R (f a) (g b)) {xs : List α} {ys : List β}
    (h : List.Forall₂ P xs ys) : Agree (List.Forall₂ R) (xs.mapM f) (ys.mapM g) := by
  induction h with
  | nil => exact .ok .nil
  | cons hxy _ ih =>
      rw [List.mapM_cons, List.mapM_cons]
      refine (each _ _ hxy).bind fun c d hcd => ?_
      exact ih.bind fun cs ds hs => .ok (.cons hcd hs)

end BoundSql.Outcome
