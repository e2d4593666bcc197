import BoundSql.Change.Insert
import Mathlib.Algebra.Order.Floor.Div

/-! Chunks of a list: how many there are, and which elements each holds. -/
namespace BoundSql.Insert

variable {α : Type} {size : Nat}

/-- A chunk with some room takes that many elements, and the others are cut anew. -/
theorem cut_eq (size room : Nat) (xs : List α) :
    cut size room xs = (xs.take room, chunks size (xs.drop room)) := by
  induction xs generalizing room with
  | nil => cases room <;> rfl
  | cons x rest ih =>
      cases room with
      | zero => rfl
      | succ room => rw [cut, ih]; rfl

theorem chunks_cons (positive : 0 < size) {xs : List α} (present : xs ≠ []) :
    chunks size xs = xs.take size :: chunks size (xs.drop size) := by
  obtain ⟨room, rfl⟩ := Nat.exists_eq_succ_of_ne_zero (Nat.pos_iff_ne_zero.mp positive)
  cases xs with
  | nil => exact absurd rfl present
  | cons x rest =>
      rw [chunks, cut, cut_eq]
      rfl

/-- Induction along the chunks of a list. -/
theorem chunks_induct {P : List α → Prop} (positive : 0 < size) (nil : P [])
    (cons : ∀ xs, xs ≠ [] → P (xs.drop size) → P xs) (xs : List α) : P xs := by
  induction measured : xs.length using Nat.strongRecOn generalizing xs with
  | ind n ih =>
      by_cases present : xs = []
      · exact present ▸ nil
      · have := List.length_pos_iff.mpr present
        have shorter : (xs.drop size).length < n := by
          rw [List.length_drop]
          omega
        exact cons xs present (ih _ shorter _ rfl)

theorem flatten_chunks (positive : 0 < size) (xs : List α) : (chunks size xs).flatten = xs := by
  induction xs using chunks_induct positive with
  | nil => rfl
  | cons xs present ih =>
      rw [chunks_cons positive present, List.flatten_cons, ih, List.take_append_drop]

theorem mem_of_mem_chunks (positive : 0 < size) {xs chunk : List α} (h : chunk ∈ chunks size xs) :
    ∀ x ∈ chunk, x ∈ xs := by
  intro x hx
  rw [← flatten_chunks positive xs]
  exact List.mem_flatten.mpr ⟨chunk, h, hx⟩

theorem ne_nil_of_mem_chunks (positive : 0 < size) {xs : List α} :
    ∀ chunk ∈ chunks size xs, chunk ≠ [] := by
  induction xs using chunks_induct positive with
  | nil => exact List.forall_mem_nil _
  | cons xs present ih =>
      rw [chunks_cons positive present]
      refine List.forall_mem_cons.mpr ⟨fun empty => present ?_, ih⟩
      exact (List.take_eq_nil_iff.mp empty).resolve_left positive.ne'

/-- Related lists have related chunks. -/
theorem forall₂_chunks {β : Type} {R : α → β → Prop} (positive : 0 < size) {xs : List α}
    {ys : List β} (h : List.Forall₂ R xs ys) :
    List.Forall₂ (List.Forall₂ R) (chunks size xs) (chunks size ys) := by
  induction xs using chunks_induct positive generalizing ys with
  | nil =>
      cases h
      exact .nil
  | cons xs present ih =>
      have present' : ys ≠ [] := by
        rintro rfl
        exact present (List.forall₂_nil_right_iff.mp h)
      rw [chunks_cons positive present, chunks_cons positive present']
      exact .cons (List.forall₂_take size h) (ih (List.forall₂_drop size h))

end BoundSql.Insert
