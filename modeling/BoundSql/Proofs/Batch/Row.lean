import BoundSql.Change.Row
import BoundSql.Proofs.Name
import Mathlib.Data.List.Perm.Subperm

/-! Rows under the columns of the first of them: each gives the value that it holds under each
column, in whichever order it lists them. -/
namespace BoundSql
open Outcome

namespace Row

theorem firstRepeated_eq_none {seen names : List String} :
    firstRepeated seen names = none ↔ names.Nodup ∧ ∀ name ∈ names, name ∉ seen := by
  induction names generalizing seen with
  | nil => simp [firstRepeated]
  | cons name rest ih =>
      rw [firstRepeated, List.nodup_cons, List.forall_mem_cons]
      by_cases repeated : name ∈ seen
      · simp [repeated]
      · rw [if_neg repeated, ih]
        constructor
        · rintro ⟨nodup, fresh⟩
          have apart : name ∉ rest := fun h => fresh name h List.mem_cons_self
          exact ⟨⟨apart, nodup⟩, repeated, fun n hn => List.not_mem_of_not_mem_cons (fresh n hn)⟩
        · rintro ⟨⟨apart, nodup⟩, -, fresh⟩
          refine ⟨nodup, fun n hn => List.not_mem_cons_of_ne_of_not_mem ?_ (fresh n hn)⟩
          rintro rfl
          exact apart hn

/-- The names before the one that is repeated first repeat nothing. -/
theorem firstRepeated_eq_some {seen names : List String} {name : String} :
    firstRepeated seen names = some name ↔ ∃ before after, names = before ++ name :: after ∧
      firstRepeated seen before = none ∧ (name ∈ before ∨ name ∈ seen) := by
  induction names generalizing seen with
  | nil => simp [firstRepeated]
  | cons first rest ih =>
      rw [firstRepeated]
      by_cases repeated : first ∈ seen
      · rw [if_pos repeated]
        constructor
        · rintro ⟨⟩
          exact ⟨[], rest, rfl, rfl, .inr repeated⟩
        · rintro ⟨_ | ⟨b, before⟩, after, split, clean, -⟩ <;> cases split
          · rfl
          · rw [firstRepeated, if_pos repeated] at clean
            cases clean
      · have passed : ∀ before, name ∈ before ∨ name ∈ first :: seen ↔
            name ∈ first :: before ∨ name ∈ seen := by
          intro before
          rw [List.mem_cons, List.mem_cons, or_left_comm, or_assoc]
        rw [if_neg repeated, ih]
        constructor
        · rintro ⟨before, after, rfl, clean, twice⟩
          refine ⟨first :: before, after, rfl, ?_, (passed before).mp twice⟩
          rwa [firstRepeated, if_neg repeated]
        · rintro ⟨_ | ⟨b, before⟩, after, split, clean, twice⟩ <;> cases split
          · exact absurd (twice.resolve_left List.not_mem_nil) repeated
          · rw [firstRepeated, if_neg repeated] at clean
            exact ⟨before, after, rfl, clean, (passed before).mpr twice⟩

theorem repeatedColumn?_eq_none {r : Row} : r.repeatedColumn? = none ↔ r.columns.Nodup := by
  rw [repeatedColumn?, firstRepeated_eq_none]
  exact and_iff_left fun name _ => List.not_mem_nil

/-- A row that repeats no column holds one value under each. -/
theorem get?_eq_some {r : Row} (nodup : r.columns.Nodup) {column : String} {value : Value} :
    r.get? column = some value ↔ (column, value) ∈ r.fields := by
  obtain ⟨table, fields⟩ := r
  simp only [columns] at nodup
  simp only [get?]
  induction fields with
  | nil => simp
  | cons field rest ih =>
      obtain ⟨name, held⟩ := field
      rw [List.map_cons, List.nodup_cons] at nodup
      rw [List.lookup_cons, List.mem_cons]
      by_cases same : column = name
      · subst same
        have apart : (column, value) ∉ rest := fun later =>
          nodup.1 (List.mem_map.mpr ⟨_, later, rfl⟩)
        simp [apart, eq_comm]
      · simp [same, ih nodup.2, beq_eq_false_iff_ne.mpr same]

theorem valuesOf_eq_some {r : Row} {columns : List String} {values : List Value} :
    r.valuesOf columns = some values ↔
      List.Forall₂ (fun column value => r.get? column = some value) columns values := by
  induction columns generalizing values with
  | nil => simp [valuesOf, eq_comm]
  | cons column rest ih =>
      simp only [valuesOf, Option.bind_eq_bind, Option.bind_eq_some_iff, ih,
        List.forall₂_cons_left_iff, Option.pure_def, Option.some.injEq]
      constructor
      · rintro ⟨value, held, later, hlater, rfl⟩
        exact ⟨value, later, held, hlater, rfl⟩
      · rintro ⟨value, later, held, hlater, rfl⟩
        exact ⟨value, held, later, hlater, rfl⟩

theorem isSome_get? {r : Row} {column : String} :
    (r.get? column).isSome ↔ column ∈ r.columns := by
  obtain ⟨table, fields⟩ := r
  unfold get? columns
  induction fields with
  | nil => simp
  | cons field rest ih =>
      obtain ⟨name, value⟩ := field
      rw [List.lookup_cons, List.map_cons, List.mem_cons]
      by_cases same : column = name
      · simp [same]
      · rw [beq_eq_false_iff_ne.mpr same]
        simp [same, ih]

theorem isSome_valuesOf {r : Row} {columns : List String} :
    (r.valuesOf columns).isSome ↔ ∀ column ∈ columns, column ∈ r.columns := by
  induction columns with
  | nil => simp [valuesOf]
  | cons column rest ih =>
      rw [List.forall_mem_cons, ← isSome_get?, ← ih, valuesOf]
      cases r.get? column <;> cases r.valuesOf rest <;> simp

/-- A row that fits the first one, and the values that it holds under the columns of the first. -/
structure Fits (first r : Row) (values : List Value) : Prop where
  nodup : r.columns.Nodup
  table : r.table = first.table
  size : r.fields.length = first.fields.length
  held : List.Forall₂ (fun column value => (column, value) ∈ r.fields) first.columns values

theorem alignTo_ok {first r : Row} {index : Nat} {values : List Value} :
    alignTo first index r = .ok values ↔ Fits first r values := by
  have taken : alignTo first index r = .ok values ↔ r.repeatedColumn? = none ∧
      (r.table = first.table ∧ r.fields.length = first.fields.length) ∧
        r.valuesOf first.columns = some values := by
    rw [alignTo]
    cases r.repeatedColumn? with
    | some column => simp
    | none =>
        by_cases same : r.table = first.table ∧ r.fields.length = first.fields.length
        · cases r.valuesOf first.columns <;> simp [same]
        · have differs : r.table ≠ first.table ∨ r.fields.length ≠ first.fields.length := by
            rwa [← not_and_or]
          simp only [if_pos differs, same]
          simp
  rw [taken, repeatedColumn?_eq_none, valuesOf_eq_some]
  constructor
  · rintro ⟨nodup, ⟨table, size⟩, held⟩
    exact ⟨nodup, table, size, held.imp fun _ _ => (get?_eq_some nodup).mp⟩
  · intro h
    exact ⟨h.nodup, ⟨h.table, h.size⟩, h.held.imp fun _ _ => (get?_eq_some h.nodup).mpr⟩

theorem alignAll_ok {first : Row} {index : Nat} {rows : List Row} {values : List (List Value)} :
    alignAll first index rows = .ok values ↔ List.Forall₂ (Fits first) rows values := by
  induction rows generalizing index values with
  | nil => simp [alignAll, eq_comm]
  | cons r rest ih =>
      simp only [alignAll, bind_ok, alignTo_ok, ih, pure_ok, List.forall₂_cons_left_iff]
      constructor
      · rintro ⟨held, fits, later, hlater, rfl⟩
        exact ⟨held, later, fits, hlater, rfl⟩
      · rintro ⟨held, later, fits, hlater, rfl⟩
        exact ⟨held, fits, later, hlater, rfl⟩

/-- A row that fits has the columns of the first row, in some order. -/
theorem Fits.columns_perm {first r : Row} {values : List Value} (h : Fits first r values)
    (nodup : first.columns.Nodup) : r.columns.Perm first.columns := by
  have mem : ∀ value column, (column, value) ∈ r.fields → column ∈ r.columns :=
    fun value column held => List.mem_map.mpr ⟨(column, value), held, rfl⟩
  have among : first.columns ⊆ r.columns := fun column => forall_right mem h.held.flip column
  -- A row may not repeat a column but could have others; their number leaves no room for them.
  have size : r.columns.length ≤ first.columns.length := by
    simp only [columns, List.length_map, h.size, Nat.le_refl]
  exact ((List.subperm_of_subset nodup among).perm_of_length_le size).symm

end Row
end BoundSql
