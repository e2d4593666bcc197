import BoundSql.Data.Node
import Mathlib.Data.List.Basic

/-! Trees: how deep they are, and which of them stand for something in all their parts. -/
namespace BoundSql.Node

/-- A tree that is printed without loss: whole numbers fit into sixty-four bits, and no number is
real. -/
inductive Plain : Node → Prop where
  | null : Plain .null
  | bool (b : Bool) : Plain (.bool b)
  | whole {n : Int} (low : -9223372036854775808 ≤ n) (high : n ≤ 18446744073709551615) :
      Plain (.whole n)
  | text (s : String) : Plain (.text s)
  | list {items : List Node} (each : ∀ n ∈ items, Plain n) : Plain (.list items)
  | table {entries : List (String × Node)} (each : ∀ entry ∈ entries, Plain entry.2) :
      Plain (.table entries)

theorem depthOfAll_eq (items : List Node) :
    depthOfAll items = (items.map depth).foldr max 0 := by
  induction items with
  | nil => rfl
  | cons n rest ih => rw [depthOfAll, ih, List.map_cons, List.foldr_cons]

theorem depthOfEntries_eq (entries : List (String × Node)) :
    depthOfEntries entries = (entries.map fun entry => entry.2.depth).foldr max 0 := by
  induction entries with
  | nil => rfl
  | cons entry rest ih =>
      obtain ⟨key, n⟩ := entry
      rw [depthOfEntries, ih, List.map_cons, List.foldr_cons]

theorem depth_lt_list {items : List Node} : ∀ n ∈ items, n.depth < (list items).depth := by
  rw [depth]
  induction items with
  | nil => exact List.forall_mem_nil _
  | cons n rest ih =>
      rw [depthOfAll]
      refine List.forall_mem_cons.mpr ⟨by omega, fun m hm => ?_⟩
      have inside := ih m hm
      omega

theorem depth_lt_table {entries : List (String × Node)} :
    ∀ entry ∈ entries, entry.2.depth < (table entries).depth := by
  rw [depth]
  induction entries with
  | nil => exact List.forall_mem_nil _
  | cons entry rest ih =>
      obtain ⟨key, n⟩ := entry
      rw [depthOfEntries]
      refine List.forall_mem_cons.mpr ⟨Nat.lt_succ_of_le (Nat.le_max_left _ _), fun m hm => ?_⟩
      have inside := ih m hm
      omega

theorem isReadable_list {items : List Node} :
    (list items).isReadable ↔ ∀ n ∈ items, n.isReadable := by
  rw [isReadable]
  induction items with
  | nil => simp [allReadable]
  | cons n rest ih => rw [allReadable, Bool.and_eq_true, ih, List.forall_mem_cons]

theorem isReadable_table {entries : List (String × Node)} :
    (table entries).isReadable ↔ ∀ entry ∈ entries, entry.2.isReadable := by
  rw [isReadable]
  induction entries with
  | nil => simp [entriesReadable]
  | cons entry rest ih =>
      obtain ⟨key, n⟩ := entry
      rw [entriesReadable, Bool.and_eq_true, ih, List.forall_mem_cons]

end BoundSql.Node
