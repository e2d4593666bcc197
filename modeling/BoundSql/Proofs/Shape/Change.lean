import BoundSql.Proofs.Shape.Condition
import BoundSql.Shape.Change

/-! Rows, updates and deletions that are written and read again. Columns keep their order and
their repetitions. -/
namespace BoundSql.Shape
open Node

variable {d : Dialect}

theorem tableOf_ofFields (fields : List (String × Value)) :
    tableOf value? (ofFields fields) = some fields := by
  rw [ofFields, tableOf, mapM_some, List.forall₂_map_left_iff, List.forall₂_same]
  exact fun field _ => congrArg (Option.map (field.1, ·)) (value?_ofValue field.2)

theorem plain_ofFields {fields : List (String × Value)}
    (h : ∀ v ∈ fields.map (·.2), v.isRealFree) : Plain (ofFields fields) :=
  .table (List.forall_mem_map.mpr fun field hf =>
    plain_ofValue field.2 (h field.2 (List.mem_map_of_mem hf)))

theorem ofRow_eq (r : Row) : ofRow r = .table (record [["table"], ["fields"]]
    [some (.text r.table), some (ofFields r.fields)]) :=
  rfl

theorem row?_ofRow (r : Row) : row? d (ofRow r) = some r := by
  rw [ofRow_eq, row?, fields?_record (by decide) rfl]
  simp [text?, tableOf_ofFields]

theorem plain_ofRow {r : Row} (h : ∀ v ∈ r.fields.map (·.2), v.isRealFree) : Plain (ofRow r) := by
  rw [ofRow_eq]
  exact plain_record ⟨plain_text _, plain_some (plain_ofFields h)⟩

theorem ofConflict_update (target columns : List String) :
    ofConflict (.update target columns) = .table [("update", .table (record conflictNames
      [some (.list (target.map .text)), some (.list (columns.map .text))]))] :=
  rfl

theorem conflict?_ofConflict (c : Conflict) : conflict? d (ofConflict c) = some c := by
  cases c with
  | doNothing => rfl
  | update target columns =>
      have texts : ∀ names : List String, listOf text? (.list (names.map .text)) = some names :=
        fun _ => listOf_map fun _ _ => rfl
      have fields : fields? d.spareElements conflictNames (.table (record conflictNames
          [some (.list (target.map .text)), some (.list (columns.map .text))])) =
            some [some (.list (target.map .text)), some (.list (columns.map .text))] :=
        fields?_record (by decide) rfl _
      have closed : isClosed conflictNames (.table (record conflictNames
        [some (.list (target.map .text)), some (.list (columns.map .text))])) = true := by rfl
      rw [ofConflict_update, conflict?, variant?]
      simp [fields, texts, closed]

theorem plain_ofConflict (c : Conflict) : Plain (ofConflict c) := by
  cases c with
  | doNothing => exact .text _
  | update target columns =>
      have texts : ∀ names : List String, Plain (.list (names.map .text)) :=
        fun _ => plain_list fun _ _ => .text _
      rw [ofConflict_update]
      refine .table (List.forall_mem_singleton.mpr ?_)
      exact plain_record ⟨plain_some (texts target), plain_some (texts columns)⟩

theorem ofUpdate_eq (u : Update) : ofUpdate u = .table (record updateNames
    [some (.text u.table), some (ofFields u.assignments), u.filter.map ofCondition]) := by
  simp [ofUpdate, entry_eq, record, updateNames, filterNames]

theorem update?_ofUpdate (u : Update) : update? d (ofUpdate u) = some u := by
  rw [ofUpdate_eq, update?, fields?_record (by decide) rfl]
  simp [text?, tableOf_ofFields, optional_condition]

theorem plain_ofUpdate {u : Update} (assigned : ∀ v ∈ u.assignments.map (·.2), v.isRealFree)
    (held : ∀ v ∈ u.filter.elim [] Condition.values, v.isRealFree) : Plain (ofUpdate u) := by
  rw [ofUpdate_eq]
  exact plain_record ⟨plain_text _, plain_some (plain_ofFields assigned),
    plain_map (plain_filter held)⟩

theorem ofDeletion_eq (x : Deletion) : ofDeletion x = .table (record deletionNames
    [some (.text x.table), x.filter.map ofCondition]) := by
  simp [ofDeletion, entry_eq, record, deletionNames, filterNames]

theorem deletion?_ofDeletion (x : Deletion) : deletion? d (ofDeletion x) = some x := by
  rw [ofDeletion_eq, deletion?, fields?_record (by decide) rfl]
  simp [text?, optional_condition]

theorem plain_ofDeletion {x : Deletion}
    (held : ∀ v ∈ x.filter.elim [] Condition.values, v.isRealFree) : Plain (ofDeletion x) := by
  rw [ofDeletion_eq]
  exact plain_record ⟨plain_text _, plain_map (plain_filter held)⟩

end BoundSql.Shape
