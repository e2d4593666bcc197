import BoundSql.Proofs.Batch.Insert

/-! Batches lose, repeat and misplace nothing. -/
namespace BoundSql
open Outcome Statement

namespace Insert

/-- The rows of one statement, for so many rows a statement. -/
def covered (i : Insert) (size j : Nat) : List Row := (i.rows.drop (j * size)).take size

theorem cells {first : Row} {rows : List Row} {values : List (List Value)}
    (fits : List.Forall₂ (Row.Fits first) rows values) :
    List.Forall₂ (fun cell value => (cell.2, value) ∈ cell.1.fields) (rows ×ˢ first.columns)
      values.flatten := by
  induction fits with
  | nil => exact .nil
  | @cons r values rows rest hr _ ih =>
      rw [List.product_cons, List.flatten_cons]
      refine List.rel_append ?_ ih
      rw [List.forall₂_map_left_iff]
      exact hr.held

end Insert

namespace Row

/-- A row with its fields in another order. -/
def Reordered (r other : Row) : Prop := other.table = r.table ∧ other.fields.Perm r.fields

theorem Fits.reordered {first r other : Row} {values : List Value} (h : Fits first r values)
    (same : Reordered r other) : Fits first other values := by
  obtain ⟨table, fields⟩ := same
  refine ⟨?_, table.trans h.table, fields.length_eq.trans h.size, ?_⟩
  · exact (fields.map Prod.fst).nodup_iff.mpr h.nodup
  · exact h.held.imp fun _ _ held => fields.mem_iff.mpr held

end Row

namespace Insert

/-- Three rows for two statements, the second of them with its fields the other way round. -/
def crossing : Insert where
  rows := [⟨"users", [("name", .text "a?"), ("age", .integer 1)]⟩,
    ⟨"users", [("age", .integer 2), ("name", .text "b'")]⟩,
    ⟨"users", [("name", .null), ("age", .list [.integer 3])]⟩]
  maxRows := some 2
  conflict := some (.update ["name"] ["age"])

end Insert
end BoundSql
