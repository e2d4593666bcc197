import BoundSql.Proofs.Batch.Chunk
import BoundSql.Proofs.Batch.Row
import BoundSql.Proofs.Placeholder.Rendering
import Mathlib.Data.List.ProdSigma

/-! Insertions of many rows: which rows each statement inserts, and with which values. -/
namespace BoundSql
open Outcome Statement

theorem Aligned.ofRows_ok {rows : List Row} {a : Aligned} :
    Aligned.ofRows rows = .ok a ↔ ∃ first rest values, rows = first :: rest ∧
      Name.isIdentifier first.table.toList ∧ first.fields ≠ [] ∧
      (∀ name ∈ first.columns, Name.isIdentifier name.toList) ∧
      List.Forall₂ (Row.Fits first) rows values ∧
      ⟨first.table, first.columns, values⟩ = a := by
  cases rows with
  | nil => simp [ofRows]
  | cons first rest =>
      simp only [ofRows, bind_ok, guard_ok, Name.checkTable_ok, Name.checkIdentifiers_ok,
        Row.alignAll_ok, pure_ok, exists_const, List.isEmpty_iff, ne_eq]
      constructor
      · rintro ⟨table, present, columns, values, fits, made⟩
        exact ⟨first, rest, values, rfl, table, present, columns, fits, made⟩
      · rintro ⟨_, _, values, same, table, present, columns, fits, made⟩
        cases same
        exact ⟨table, present, columns, values, fits, made⟩

theorem Conflict.compile_update_ok {target columns : List String} {text : String} :
    (Conflict.update target columns).compile = .ok text ↔
      (target.isEmpty || columns.isEmpty) = false ∧
      (∀ name ∈ target, Name.isIdentifier name.toList) ∧
      (∀ name ∈ columns, Name.isIdentifier name.toList) ∧
      " ON CONFLICT(" ++ ", ".intercalate target ++ ") DO UPDATE SET " ++
        ", ".intercalate (columns.map fun c => c ++ " = excluded." ++ c) = text := by
  simp only [compile, bind_ok, guard_ok, Name.checkIdentifiers_ok, pure_ok, exists_const,
    List.forall_mem_append, and_assoc, Bool.not_eq_true]

theorem Conflict.compile_inert {c : Conflict} {text : String} (h : c.compile = .ok text) :
    Inert text := by
  cases c with
  | doNothing =>
      cases h
      decide
  | update target columns =>
      obtain ⟨-, htarget, hcolumns, rfl⟩ := compile_update_ok.mp h
      have found := Inert.intercalate (by decide : Inert ", ")
        fun name hname => inert_of_isIdentifier (htarget name hname)
      have updates : ∀ column ∈ columns, Inert (column ++ " = excluded." ++ column) :=
        fun column hcolumn =>
          ((inert_of_isIdentifier (hcolumns column hcolumn)).append (by decide)).append
            (inert_of_isIdentifier (hcolumns column hcolumn))
      have changed := Inert.intercalate (by decide : Inert ", ")
        (List.forall_mem_map.mpr updates)
      exact (((by decide : Inert " ON CONFLICT(").append found).append
        (by decide : Inert ") DO UPDATE SET ")).append changed

namespace Insert

theorem conflictClause_inert {i : Insert} {text : String} (h : i.conflictClause = .ok text) :
    Inert text := by
  unfold conflictClause at h
  split at h
  · cases h
    decide
  · exact Conflict.compile_inert h

theorem compile_ok {options : Options} {i : Insert} {statements : List Statement} :
    i.compile options = .ok statements ↔ ∃ a, Aligned.ofRows i.rows = .ok a ∧
      ∃ conflict, i.conflictClause = .ok conflict ∧
        (chunks (i.batchSize options) a.values).map (batchStatement a conflict) = statements := by
  simp only [compile, bind_ok, pure_ok]

theorem batchSize_pos (options : Options) (i : Insert) : 0 < i.batchSize options :=
  Nat.lt_of_lt_of_le Nat.one_pos (Nat.le_max_right _ 1)

theorem literals_eq (values : List Value) : Value.literals values = values.map Value.literal := by
  induction values with
  | nil => rfl
  | cons v rest ih => rw [Value.literals, ih, List.map_cons]

theorem head_inert {a : Aligned} (table : Name.isIdentifier a.table.toList)
    (columns : ∀ name ∈ a.columns, Name.isIdentifier name.toList) : Inert (head a) := by
  have names := Inert.intercalate (by decide : Inert ", ")
    fun name hname => inert_of_isIdentifier (columns name hname)
  exact ((((by decide : Inert "INSERT INTO ").append (inert_of_isIdentifier table)).append
    (by decide : Inert " (")).append names).append (by decide : Inert ") VALUES ")

/-- The statement of a batch lines up, and with its values written in it is the batch's text. -/
theorem batchStatement_renders {a : Aligned} {conflict : String}
    (table : Name.isIdentifier a.table.toList)
    (columns : ∀ name ∈ a.columns, Name.isIdentifier name.toList) (hconflict : Inert conflict)
    {batch : List (List Value)} (sizes : ∀ row ∈ batch, row.length = a.columns.length) :
    (batchStatement a conflict batch).Renders (batchText a conflict batch) := by
  have groups : List.Forall₂ Renders
      (batch.map fun row => ⟨"(" ++ ", ".intercalate (row.map fun _ => "?") ++ ")", row⟩)
      (batch.map fun row => "(" ++ ", ".intercalate (row.map Value.literal) ++ ")") := by
    simp only [List.forall₂_map_left_iff, List.forall₂_map_right_iff, List.forall₂_same]
    exact fun row _ => (Renders.values row).between (by decide : Inert "(")
      (by decide : Inert ")")
  have all := (Renders.joined (by decide : Inert ", ") groups).between (head_inert table columns)
    hconflict
  have same : batch.map (fun row => "(" ++ ", ".intercalate (row.map fun _ => "?") ++ ")") =
      List.replicate batch.length
        ("(" ++ ", ".intercalate (List.replicate a.columns.length "?") ++ ")") := by
    rw [← List.map_const']
    refine List.map_congr_left fun row hrow => ?_
    rw [List.map_const', sizes row hrow]
  simp only [Statement.joined, List.map_map, List.flatMap_map, Function.comp_def, same] at all
  simp only [batchStatement, batchText, literals_eq]
  rw [List.flatMap_id'] at all
  exact all

end Insert
end BoundSql
