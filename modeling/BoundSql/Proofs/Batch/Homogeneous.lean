import BoundSql.Proofs.Batch.Insert
import BoundSql.Proofs.Checked.Query

/-! Which insertions compile: those of rows under one schema, with a conflict clause that can be
written. Of the others, each is refused with the fault of the first thing that is wrong with it, and
the row that a fault names is the first one that does not fit. -/
namespace BoundSql
open Outcome

namespace Name

/-- The first of some names that is no identifier. -/
def FirstBad (names : List String) (name : String) : Prop :=
  ∃ before after, names = before ++ name :: after ∧ (∀ b ∈ before, isIdentifier b.toList) ∧
    ¬ isIdentifier name.toList

theorem checkIdentifiers_error {names : List String} {fault : Fault} :
    checkIdentifiers names = .error fault ↔
      ∃ name, FirstBad names name ∧ .invalidIdentifier name = fault := by
  have screened : Screened (Check.fault? ∘ .identifier) names (checkIdentifiers names) := by
    rw [Screened, ← List.findSome?_map]
    exact checkIdentifiers_decided names
  have pass : ∀ name, Check.fault? (.identifier name) = none ↔ isIdentifier name.toList := by
    intro name
    simp [Check.fault?]
  have fail : ∀ name, Check.fault? (.identifier name) = some fault ↔
      ¬ isIdentifier name.toList ∧ .invalidIdentifier name = fault := by
    intro name
    simp [Check.fault?]
  rw [screened.eq_error_iff]
  simp only [Function.comp_apply, pass, fail]
  constructor
  · rintro ⟨before, name, after, split, fine, bad, rfl⟩
    exact ⟨name, ⟨before, after, split, fine, bad⟩, rfl⟩
  · rintro ⟨name, ⟨before, after, split, fine, bad⟩, rfl⟩
    exact ⟨before, name, after, split, fine, bad, rfl⟩

theorem checkTable_error {name : String} {fault : Fault} :
    checkTable name = .error fault ↔
      ¬ isIdentifier name.toList ∧ .invalidTableName name = fault := by
  by_cases fine : isIdentifier name.toList <;> simp [checkTable, fine]

theorem FirstBad.not_all {names : List String} {name : String} (h : FirstBad names name) :
    ¬ ∀ n ∈ names, isIdentifier n.toList := by
  obtain ⟨before, after, rfl, -, bad⟩ := h
  exact fun all => bad (all name (by simp))

end Name

namespace Row

/-- A row under the schema of the first one: for the same table, with the same columns in any order,
none of which it repeats. -/
structure Uniform (first r : Row) : Prop where
  table : r.table = first.table
  columns : ∀ column, column ∈ r.columns ↔ column ∈ first.columns
  nodup : r.columns.Nodup

/-- The column that a row lists for a second time, the first one of several. -/
def Repeats (r : Row) (column : String) : Prop :=
  ∃ before after, r.columns = before ++ column :: after ∧ column ∈ before ∧ before.Nodup

/-- What is wrong with the row of an index that is not under the schema of the first one. -/
inductive Blamed (first : Row) (index : Nat) (r : Row) : Fault → Prop
  | repeats {column : String} (twice : r.Repeats column) :
      Blamed first index r (.duplicateColumn index column)
  | differs (nodup : r.columns.Nodup)
      (other : ¬ (r.table = first.table ∧ ∀ column, column ∈ r.columns ↔ column ∈ first.columns)) :
      Blamed first index r (.schemaMismatch index first.description r.description)

theorem Repeats.not_nodup {r : Row} {column : String} (h : r.Repeats column) :
    ¬ r.columns.Nodup := by
  obtain ⟨before, after, split, seen, -⟩ := h
  rw [split, List.nodup_append]
  rintro ⟨-, -, apart⟩
  exact apart column seen column List.mem_cons_self rfl

theorem Blamed.not_uniform {first r : Row} {index : Nat} {fault : Fault}
    (h : Blamed first index r fault) : ¬ Uniform first r := by
  intro uniform
  cases h with
  | repeats twice => exact twice.not_nodup uniform.nodup
  | differs _ other => exact other ⟨uniform.table, uniform.columns⟩

theorem repeatedColumn?_eq_some {r : Row} {column : String} :
    r.repeatedColumn? = some column ↔ r.Repeats column := by
  simp only [repeatedColumn?, firstRepeated_eq_some, firstRepeated_eq_none, Repeats,
    List.not_mem_nil, not_false_eq_true, implies_true, and_true, or_false]
  exact exists_congr fun before => exists_congr fun after => and_congr_right fun _ => and_comm

/-- A row gives a value under each column of the first row exactly if it is under its schema: the
numbers of columns being the same, it has no room for others. -/
theorem uniform_iff_fits {first r : Row} (nodup : first.columns.Nodup) :
    Uniform first r ↔ ∃ values, Fits first r values := by
  constructor
  · intro h
    have perm : r.columns.Perm first.columns :=
      (List.perm_ext_iff_of_nodup h.nodup nodup).mpr h.columns
    have size : r.fields.length = first.fields.length := by
      simpa only [columns, List.length_map] using perm.length_eq
    have held : (r.valuesOf first.columns).isSome :=
      isSome_valuesOf.mpr fun column member => (h.columns column).mpr member
    obtain ⟨values, given⟩ := Option.isSome_iff_exists.mp held
    exact ⟨values, h.nodup, h.table, size,
      (valuesOf_eq_some.mp given).imp fun _ _ => (get?_eq_some h.nodup).mp⟩
  · rintro ⟨values, fits⟩
    exact ⟨fits.table, fun column => (fits.columns_perm nodup).mem_iff, fits.nodup⟩

/-- A row that repeats nothing is refused for one reason only. -/
theorem alignTo_mismatch {first r : Row} {index : Nat} {fault : Fault} (nodup : r.columns.Nodup)
    (refused : alignTo first index r = .error fault) :
    .schemaMismatch index first.description r.description = fault := by
  rw [alignTo, repeatedColumn?_eq_none.mpr nodup] at refused
  dsimp only at refused
  split at refused
  · cases refused
  · exact Except.error.inj refused

theorem alignTo_error {first r : Row} {index : Nat} {fault : Fault}
    (fresh : r.columns.Nodup → first.columns.Nodup) :
    alignTo first index r = .error fault ↔ Blamed first index r fault := by
  cases repeated : r.repeatedColumn? with
  | some column =>
      have twice := repeatedColumn?_eq_some.mp repeated
      have refused : alignTo first index r = .error (.duplicateColumn index column) := by
        rw [alignTo, repeated]
      rw [refused]
      constructor
      · rintro ⟨⟩
        exact .repeats twice
      · rintro (again | nodup)
        · have same := repeated.symm.trans (repeatedColumn?_eq_some.mpr again)
          rw [Option.some.inj same]
        · exact absurd nodup twice.not_nodup
  | none =>
      have nodup := repeatedColumn?_eq_none.mp repeated
      have uniform := uniform_iff_fits (r := r) (fresh nodup)
      constructor
      · intro refused
        rw [← alignTo_mismatch nodup refused]
        refine .differs nodup ?_
        rintro ⟨table, columns⟩
        obtain ⟨values, fits⟩ := uniform.mp ⟨table, columns, nodup⟩
        rw [alignTo_ok.mpr fits] at refused
        cases refused
      · intro blamed
        cases outcome : alignTo first index r with
        | ok values =>
            exact absurd (uniform.mpr ⟨values, alignTo_ok.mp outcome⟩) blamed.not_uniform
        | error other =>
            rw [← alignTo_mismatch nodup outcome]
            cases blamed with
            | repeats twice => exact absurd nodup twice.not_nodup
            | differs => rfl

theorem alignAll_error {first : Row} {index : Nat} {rows : List Row} {fault : Fault} :
    alignAll first index rows = .error fault ↔ ∃ before r after, rows = before ++ r :: after ∧
      (∀ b ∈ before, ∃ values, Fits first b values) ∧
        alignTo first (index + before.length) r = .error fault := by
  induction rows generalizing index with
  | nil => simp [alignAll]
  | cons r rest ih =>
      simp only [alignAll, bind_error, alignTo_ok, ih, pure_error, and_false, exists_false,
        or_false]
      constructor
      · rintro (refused | ⟨values, fits, before, other, after, rfl, fine, refused⟩)
        · exact ⟨[], r, rest, rfl, List.forall_mem_nil _, refused⟩
        · rw [Nat.add_right_comm] at refused
          exact ⟨r :: before, other, after, rfl, List.forall_mem_cons.mpr ⟨⟨values, fits⟩, fine⟩,
            refused⟩
      · rintro ⟨_ | ⟨b, before⟩, other, after, split, fine, refused⟩ <;> cases split
        · exact .inl refused
        · obtain ⟨⟨values, fits⟩, fine⟩ := List.forall_mem_cons.mp fine
          rw [List.length_cons, ← Nat.add_assoc, Nat.add_right_comm] at refused
          exact .inr ⟨values, fits, before, other, after, rfl, fine, refused⟩

/-- Rows are refused for the first of them that is not under the schema of the first row. -/
theorem alignAll_blamed {first : Row} {rest : List Row} {fault : Fault} :
    alignAll first 0 (first :: rest) = .error fault ↔ ∃ before r after,
      first :: rest = before ++ r :: after ∧ (∀ b ∈ before, Uniform first b) ∧
        Blamed first before.length r fault := by
  simp only [alignAll_error, Nat.zero_add]
  refine exists_congr fun before => exists_congr fun r => exists_congr fun after =>
    and_congr_right fun split => ?_
  -- The first row is compared with itself, and passes if it repeats nothing. Only after that do the
  -- numbers of columns tell whether the columns are the same.
  cases before with
  | nil =>
      cases split
      simp only [List.not_mem_nil, false_implies, implies_true, true_and]
      exact alignTo_error id
  | cons b before =>
      cases split
      constructor
      · rintro ⟨fine, refused⟩
        obtain ⟨values, fits⟩ := fine first List.mem_cons_self
        exact ⟨fun c hc => (uniform_iff_fits fits.nodup).mpr (fine c hc),
          (alignTo_error fun _ => fits.nodup).mp refused⟩
      · rintro ⟨fine, blamed⟩
        have nodup := (fine first List.mem_cons_self).nodup
        exact ⟨fun c hc => (uniform_iff_fits nodup).mp (fine c hc),
          (alignTo_error fun _ => nodup).mpr blamed⟩

/-- A row that others can follow: it is for a table, and it has columns. -/
structure Leading (first : Row) : Prop where
  table : Name.isIdentifier first.table.toList
  present : first.columns ≠ []
  columns : ∀ name ∈ first.columns, Name.isIdentifier name.toList

/-- Rows under the schema of the first of them. -/
structure Schema (rows : List Row) (first : Row) : Prop where
  head : rows.head? = some first
  leading : first.Leading
  uniform : ∀ r ∈ rows, Uniform first r

/-- The fault with which rows are refused. Each is for one thing that is wrong, where nothing is
wrong with what is asked for before it. -/
inductive Refused (rows : List Row) : Fault → Prop
  | empty (empty : rows = []) : Refused rows (.emptyInput .noRows)
  | table {first : Row} (head : rows.head? = some first)
      (bad : ¬ Name.isIdentifier first.table.toList) : Refused rows (.invalidTableName first.table)
  | noColumns {first : Row} (head : rows.head? = some first)
      (table : Name.isIdentifier first.table.toList) (empty : first.columns = []) :
      Refused rows (.emptyInput (.noColumns first.table))
  | column {first : Row} {name : String} (head : rows.head? = some first)
      (table : Name.isIdentifier first.table.toList) (bad : Name.FirstBad first.columns name) :
      Refused rows (.invalidIdentifier name)
  | row {first r : Row} {before after : List Row} {fault : Fault} (head : rows.head? = some first)
      (leading : first.Leading) (split : rows = before ++ r :: after)
      (uniform : ∀ b ∈ before, Uniform first b) (blamed : Blamed first before.length r fault) :
      Refused rows fault

theorem Refused.not_schema {rows : List Row} {first : Row} {fault : Fault}
    (h : Refused rows fault) : ¬ Schema rows first := by
  intro schema
  have same : ∀ {other}, rows.head? = some other → other = first := fun head =>
    Option.some.inj (head.symm.trans schema.head)
  cases h with
  | empty empty =>
      have head := schema.head
      rw [empty] at head
      cases head
  | table head bad =>
      cases same head
      exact bad schema.leading.table
  | noColumns head _ empty =>
      cases same head
      exact schema.leading.present empty
  | column head _ bad =>
      cases same head
      exact bad.not_all schema.leading.columns
  | row head _ split _ blamed =>
      cases same head
      have member : _ ∈ rows := split ▸ List.mem_append_right _ List.mem_cons_self
      exact blamed.not_uniform (schema.uniform _ member)

end Row

namespace Aligned

theorem ofRows_error {rows : List Row} {fault : Fault} :
    ofRows rows = .error fault ↔ Row.Refused rows fault := by
  cases rows with
  | nil =>
      constructor
      · rintro ⟨⟩
        exact .empty rfl
      · rintro (_ | ⟨⟨⟩⟩ | ⟨⟨⟩⟩ | ⟨⟨⟩⟩ | ⟨⟨⟩⟩)
        rfl
  | cons first rest =>
      have listed : first.fields = [] ↔ first.columns = [] := List.map_eq_nil_iff.symm
      simp only [ofRows, bind_error, guard_error, pure_error, Name.checkTable_error,
        Name.checkTable_ok, Name.checkIdentifiers_error, Name.checkIdentifiers_ok,
        List.isEmpty_iff, Row.alignAll_blamed, exists_const, and_false, or_false, listed]
      constructor
      · rintro (⟨bad, rfl⟩ | ⟨table, ⟨empty, rfl⟩ | ⟨present, ⟨name, bad, rfl⟩ | ⟨columns,
          before, r, after, split, uniform, blamed⟩⟩⟩)
        · exact .table rfl bad
        · exact .noColumns rfl table empty
        · exact .column rfl table bad
        · exact .row rfl ⟨table, present, columns⟩ split uniform blamed
      · intro refused
        cases refused with
        | empty empty => cases empty
        | table head bad =>
            cases head
            exact .inl ⟨bad, rfl⟩
        | noColumns head table empty =>
            cases head
            exact .inr ⟨table, .inl ⟨empty, rfl⟩⟩
        | column head table bad =>
            cases head
            refine .inr ⟨table, .inr ⟨?_, .inl ⟨_, bad, rfl⟩⟩⟩
            obtain ⟨before, after, split, -⟩ := bad
            simp [split]
        | row head leading split uniform blamed =>
            cases head
            exact .inr ⟨leading.table, .inr ⟨leading.present,
              .inr ⟨leading.columns, _, _, _, split, uniform, blamed⟩⟩⟩

/-- Rows come under the columns of the first of them exactly if they are under its schema. -/
theorem ofRows_schema {rows : List Row} :
    (∃ a, ofRows rows = .ok a) ↔ ∃ first, Row.Schema rows first := by
  constructor
  · rintro ⟨a, aligned⟩
    obtain ⟨first, rest, values, rfl, table, present, columns, fits, -⟩ := ofRows_ok.mp aligned
    have each : ∀ r ∈ first :: rest, ∃ values, Row.Fits first r values :=
      forall_right (fun values r held => ⟨values, held⟩) fits.flip
    obtain ⟨values, itself⟩ := each first List.mem_cons_self
    refine ⟨first, rfl, ⟨table, mt List.map_eq_nil_iff.mp present, columns⟩, ?_⟩
    intro r member
    exact (Row.uniform_iff_fits itself.nodup).mpr (each r member)
  · rintro ⟨first, schema⟩
    cases aligned : ofRows rows with
    | ok a => exact ⟨a, rfl⟩
    | error fault => exact absurd schema (ofRows_error.mp aligned).not_schema

end Aligned

/-- A conflict clause that can be written: if it updates what is there already, it has columns to
find that by and columns to update. -/
def Conflict.Writable : Conflict → Prop
  | doNothing => True
  | update target columns =>
    target ≠ [] ∧ columns ≠ [] ∧ ∀ name ∈ target ++ columns, Name.isIdentifier name.toList

/-- The fault with which a conflict clause is refused. -/
inductive Conflict.Refused : Conflict → Fault → Prop
  | empty {target columns : List String} (empty : target = [] ∨ columns = []) :
      Refused (.update target columns) (.emptyInput .noConflictColumns)
  | column {target columns : List String} {name : String} (htarget : target ≠ [])
      (hcolumns : columns ≠ []) (bad : Name.FirstBad (target ++ columns) name) :
      Refused (.update target columns) (.invalidIdentifier name)

theorem Conflict.compile_error {c : Conflict} {fault : Fault} :
    c.compile = .error fault ↔ c.Refused fault := by
  cases c with
  | doNothing =>
      constructor <;> rintro ⟨⟩
  | update target columns =>
      simp only [compile, bind_error, guard_error, pure_error, Name.checkIdentifiers_error,
        Bool.or_eq_true, List.isEmpty_iff, and_false, exists_false, or_false]
      constructor
      · rintro (⟨empty, rfl⟩ | ⟨present, name, bad, rfl⟩)
        · exact .empty empty
        · obtain ⟨htarget, hcolumns⟩ := not_or.mp present
          exact .column htarget hcolumns bad
      · rintro (⟨empty⟩ | ⟨htarget, hcolumns, bad⟩)
        · exact .inl ⟨empty, rfl⟩
        · exact .inr ⟨not_or.mpr ⟨htarget, hcolumns⟩, _, bad, rfl⟩

theorem Conflict.compile_writable {c : Conflict} : (∃ text, c.compile = .ok text) ↔ c.Writable := by
  cases c with
  | doNothing => exact ⟨fun _ => trivial, fun _ => ⟨_, rfl⟩⟩
  | update target columns =>
      simp only [compile_update_ok, exists_and_left, exists_eq', and_true, Writable,
        Bool.or_eq_false_iff, List.isEmpty_eq_false_iff, List.forall_mem_append, and_assoc]

namespace Insert

/-- An insertion that is accepted: its rows are under one schema, and its conflict clause, if it has
one, can be written. -/
structure Accepted (i : Insert) : Prop where
  schema : ∃ first, Row.Schema i.rows first
  conflict : ∀ c ∈ i.conflict, c.Writable

/-- The fault with which an insertion is refused. The conflict clause is looked at last. -/
inductive Refused (i : Insert) : Fault → Prop
  | rows {fault : Fault} (rows : Row.Refused i.rows fault) : Refused i fault
  | conflict {first : Row} {c : Conflict} {fault : Fault} (schema : Row.Schema i.rows first)
      (given : i.conflict = some c) (refused : c.Refused fault) : Refused i fault

/-- An outcome that is a value exactly for an insertion that is accepted, and otherwise the fault
with which the insertion is refused. -/
structure Judged {α : Type} (i : Insert) (x : Except Fault α) : Prop where
  accepted : (∃ a, x = .ok a) ↔ i.Accepted
  refused : ∀ fault, x = .error fault ↔ i.Refused fault

theorem Judged.map {α β : Type} {i : Insert} {x : Except Fault α} (h : i.Judged x) (f : α → β) :
    i.Judged (x.map f) := by
  obtain ⟨accepted, refused⟩ := h
  constructor
  · rw [← accepted]
    cases x <;> simp [Except.map]
  · intro fault
    rw [map_error]
    exact refused fault

/-- The rows under their columns and the clause that follows them, from which the statements are
put together. -/
def prepared (i : Insert) : Except Fault (Aligned × String) := do
  let aligned ← Aligned.ofRows i.rows
  let conflict ← i.conflictClause
  return (aligned, conflict)

/-- Both compiled forms put their results together from the same parts. -/
theorem map_prepared {α : Type} (i : Insert) (put : Aligned → String → α) :
    (do
      let aligned ← Aligned.ofRows i.rows
      let conflict ← i.conflictClause
      return put aligned conflict) = i.prepared.map fun p => put p.1 p.2 := by
  rw [prepared]
  cases Aligned.ofRows i.rows with
  | error fault => rfl
  | ok a => cases i.conflictClause <;> rfl

theorem compile_eq_prepared (options : Options) (i : Insert) :
    i.compile options = i.prepared.map fun p =>
      (chunks (i.batchSize options) p.1.values).map (batchStatement p.1 p.2) := by
  exact map_prepared i fun a conflict =>
    (chunks (i.batchSize options) a.values).map (batchStatement a conflict)

theorem compileLiteral_eq_prepared (options : Options) (i : Insert) :
    i.compileLiteral options = i.prepared.map fun p =>
      (chunks (i.batchSize options) p.1.values).map (batchText p.1 p.2) := by
  exact map_prepared i fun a conflict =>
    (chunks (i.batchSize options) a.values).map (batchText a conflict)

theorem conflictClause_ok {i : Insert} :
    (∃ text, i.conflictClause = .ok text) ↔ ∀ c ∈ i.conflict, c.Writable := by
  rw [conflictClause]
  cases i.conflict with
  | none => simp
  | some c => simpa using Conflict.compile_writable

theorem conflictClause_error {i : Insert} {fault : Fault} :
    i.conflictClause = .error fault ↔ ∃ c, i.conflict = some c ∧ c.Refused fault := by
  rw [conflictClause]
  cases i.conflict with
  | none => simp
  | some c => simpa using Conflict.compile_error

theorem prepared_judged (i : Insert) : i.Judged i.prepared := by
  constructor
  · simp only [prepared, bind_ok, pure_ok]
    constructor
    · rintro ⟨_, a, aligned, conflict, clause, rfl⟩
      exact ⟨Aligned.ofRows_schema.mp ⟨a, aligned⟩, conflictClause_ok.mp ⟨conflict, clause⟩⟩
    · rintro ⟨schema, writable⟩
      obtain ⟨a, aligned⟩ := Aligned.ofRows_schema.mpr schema
      obtain ⟨conflict, clause⟩ := conflictClause_ok.mpr writable
      exact ⟨_, a, aligned, conflict, clause, rfl⟩
  · intro fault
    simp only [prepared, bind_error, pure_error, Aligned.ofRows_error, conflictClause_error,
      and_false, exists_false, or_false]
    constructor
    · rintro (rows | ⟨a, aligned, c, given, refused⟩)
      · exact .rows rows
      · obtain ⟨first, schema⟩ := Aligned.ofRows_schema.mp ⟨a, aligned⟩
        exact .conflict schema given refused
    · rintro (rows | ⟨schema, given, refused⟩)
      · exact .inl rows
      · obtain ⟨a, aligned⟩ := Aligned.ofRows_schema.mpr ⟨_, schema⟩
        exact .inr ⟨a, aligned, _, given, refused⟩

/-- An insertion compiles, with placeholders as with literals, exactly if its rows are under one
schema and its conflict clause can be written. Otherwise it is refused for the first thing that is
wrong: with the first row, then with each row in turn, then with the conflict clause. -/
theorem compile_judged (options : Options) (i : Insert) :
    i.Judged (i.compile options) ∧ i.Judged (i.compileLiteral options) := by
  rw [compile_eq_prepared, compileLiteral_eq_prepared]
  exact ⟨i.prepared_judged.map _, i.prepared_judged.map _⟩

end Insert
end BoundSql
