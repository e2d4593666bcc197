import BoundSql.Proofs.Alike.Draft
import BoundSql.Proofs.Batch.Insert

/-! Bound values reach neither the text of a statement nor a fault. -/
namespace BoundSql
open Outcome

/-- Rows of the same columns, with any values. -/
structure Row.Alike (r other : Row) : Prop where
  table : r.table = other.table
  columns : r.columns = other.columns

inductive Insert.Alike : Insert → Insert → Prop
  | mk {i : Insert} {rows : List Row} (h : List.Forall₂ Row.Alike i.rows rows) :
      Alike i { i with rows }

/-- As many values. -/
def SameSize (values others : List Value) : Prop := values.length = others.length

structure Aligned.Alike (a b : Aligned) : Prop where
  table : a.table = b.table
  columns : a.columns = b.columns
  values : List.Forall₂ SameSize a.values b.values

namespace Row

theorem Alike.size {r other : Row} (h : r.Alike other) :
    r.fields.length = other.fields.length := by
  simpa only [Row.columns, List.length_map] using congrArg List.length h.columns

theorem alignTo_alike {first first' r r' : Row} (hf : first.Alike first') (hr : r.Alike r')
    (index : Nat) :
    Agree SameSize (alignTo first index r) (alignTo first' index r') := by
  have found : (r.valuesOf first.columns).isSome ↔ (r'.valuesOf first.columns).isSome := by
    rw [isSome_valuesOf, isSome_valuesOf, hr.columns]
  unfold alignTo
  rw [repeatedColumn?, repeatedColumn?, description, description, description, description,
    ← hr.columns, ← hr.table, ← hf.columns, ← hf.table, ← hr.size, ← hf.size]
  cases firstRepeated [] r.columns with
  | some column => exact .error _
  | none =>
      by_cases differs : r.table ≠ first.table ∨ r.fields.length ≠ first.fields.length
      · simp only [if_pos differs]
        exact .error _
      · simp only [if_neg differs]
        cases held : r.valuesOf first.columns <;> cases held' : r'.valuesOf first.columns
        case none.none => exact .error _
        case some.some =>
          have sizes := (valuesOf_eq_some.mp held).length_eq
          exact .ok (sizes.symm.trans (valuesOf_eq_some.mp held').length_eq)
        all_goals simp [held, held'] at found

theorem alignAll_alike {first first' : Row} (hf : first.Alike first') (index : Nat)
    {rows others : List Row} (h : List.Forall₂ Row.Alike rows others) :
    Agree (List.Forall₂ SameSize) (alignAll first index rows) (alignAll first' index others) := by
  induction h generalizing index with
  | nil => exact .ok .nil
  | cons hr _ ih =>
      refine (alignTo_alike hf hr index).bind fun values values' size => ?_
      exact (ih (index + 1)).bind fun later later' sizes => .ok (.cons size sizes)

end Row

theorem Aligned.ofRows_alike {rows others : List Row} (h : List.Forall₂ Row.Alike rows others) :
    Agree Aligned.Alike (ofRows rows) (ofRows others) := by
  cases h with
  | nil => exact .error _
  | @cons first first' rest rest' hf hrest =>
      have fields : first.fields.isEmpty = first'.fields.isEmpty := by
        simpa only [Row.columns, List.isEmpty_map] using congrArg List.isEmpty hf.columns
      simp only [ofRows, hf.table, hf.columns, fields]
      refine .after _ fun _ => .guard (.after _ fun _ => ?_)
      refine (Row.alignAll_alike hf 0 (.cons hf hrest)).bind fun values values' sizes => ?_
      exact .ok ⟨rfl, rfl, sizes⟩

namespace Insert

theorem batchStatement_alike {a b : Aligned} (h : a.Alike b) (conflict : String)
    {batch other : List (List Value)} (sizes : List.Forall₂ SameSize batch other) :
    (batchStatement a conflict batch).Alike (batchStatement b conflict other) := by
  constructor
  · simp only [batchStatement, head, h.table, h.columns, sizes.length_eq]
  · simp only [batchStatement, List.length_flatten]
    congr 1
    induction sizes with
    | nil => rfl
    | cons first _ ih => rw [List.map_cons, List.map_cons, first, ih]

theorem compile_alike {options : Options} {i j : Insert} (h : i.Alike j) :
    Agree (List.Forall₂ Statement.Alike) (i.compile options) (j.compile options) := by
  cases h with
  | mk rows =>
      refine (Aligned.ofRows_alike rows).bind fun a b alike => .after _ fun conflict => .ok ?_
      rw [List.forall₂_map_left_iff, List.forall₂_map_right_iff]
      exact (forall₂_chunks (i.batchSize_pos options) alike.values).imp
        fun batch other => batchStatement_alike alike conflict

end Insert

/-- What is bound is never seen: of two inputs that differ only in alike values, either both fail
with one and the same fault, or they compile to the same texts with as many arguments. -/
theorem compiled_alike (options : Options) :
    (∀ a b : Condition, a.Alike b → Agree Statement.Alike a.compile b.compile) ∧
    (∀ a b : Draft, a.Alike b →
      Agree Statement.Alike (a.compile options) (b.compile options)) ∧
    ∀ i j : Insert, i.Alike j →
      Agree (List.Forall₂ Statement.Alike) (i.compile options) (j.compile options) :=
  ⟨fun _ _ => Condition.compile_alike, fun _ _ => Draft.compile_alike,
    fun _ _ => Insert.compile_alike⟩

/-- A query with a value in its own filter and one in the filter of its common table. -/
def Draft.ofValues (role age : Value) : Draft :=
  .query
    { source := "named"
      filter := some (.leaf "age" "in" (.list [age, .null]))
      common :=
        [{ name := "named"
           body := .query { source := "users", filter := some (.leaf "role" "=" role) } }] }

theorem compiled_alike_ofValues :
    Draft.Alike (.ofValues (.text "admin") (.integer 7)) (.ofValues (.text "' OR 1=1 --?") .null) ∧
      Agree Statement.Alike ((Draft.ofValues (.text "admin") (.integer 7)).compile {})
        ((Draft.ofValues (.text "' OR 1=1 --?") .null).compile {}) := by
  have role : Option.Rel Condition.Alike (some (.leaf "role" "=" (.text "admin")))
      (some (.leaf "role" "=" (.text "' OR 1=1 --?"))) :=
    .some (.comparison ⟨rfl, rfl, .plain rfl rfl⟩)
  have age : Option.Rel Condition.Alike (some (.leaf "age" "in" (.list [.integer 7, .null])))
      (some (.leaf "age" "in" (.list [.null, .null]))) :=
    .some (.comparison ⟨rfl, rfl, .list rfl⟩)
  have alike : Draft.Alike (.ofValues (.text "admin") (.integer 7))
      (.ofValues (.text "' OR 1=1 --?") .null) :=
    .query (.mk age (.cons (.mk (.query (.mk role .nil))) .nil))
  exact ⟨alike, (compiled_alike {}).2.1 _ _ alike⟩

end BoundSql
