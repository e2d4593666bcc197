import BoundSql.Proofs.Alike.Condition
import BoundSql.Proofs.Draft

/-! Queries and changes that differ only in the values that they bind. -/
namespace BoundSql
open Outcome

mutual

/-- Queries that differ only in the values of their filters, at any depth of common tables. -/
inductive Query.Alike : Query → Query → Prop
  | mk {q : Query} {filter : Option Condition} {common : List CommonTable}
      (hf : Option.Rel Condition.Alike q.filter filter)
      (hc : List.Forall₂ CommonTable.Alike q.common common) :
      Query.Alike q { q with filter, common }

inductive CommonTable.Alike : CommonTable → CommonTable → Prop
  | mk {table : CommonTable} {body : TableBody} (h : TableBody.Alike table.body body) :
      CommonTable.Alike table { table with body }

inductive TableBody.Alike : TableBody → TableBody → Prop
  | query {q r : Query} (h : Query.Alike q r) : TableBody.Alike (.query q) (.query r)
  | raw (sql : String) : TableBody.Alike (.raw sql) (.raw sql)

end

inductive TableSelect.Alike : TableSelect → TableSelect → Prop
  | mk {s : TableSelect} {filter : Option Condition}
      (hf : Option.Rel Condition.Alike s.filter filter) : Alike s { s with filter }

/-- Updates of the same columns, to any values. -/
inductive Update.Alike : Update → Update → Prop
  | mk {u : Update} {assignments : List (String × Value)} {filter : Option Condition}
      (ha : u.assignments.map Prod.fst = assignments.map Prod.fst)
      (hf : Option.Rel Condition.Alike u.filter filter) :
      Alike u { u with assignments, filter }

inductive Deletion.Alike : Deletion → Deletion → Prop
  | mk {d : Deletion} {filter : Option Condition}
      (hf : Option.Rel Condition.Alike d.filter filter) : Alike d { d with filter }

inductive Draft.Alike : Draft → Draft → Prop
  | select (table : String) {s t : TableSelect} (h : s.Alike t) :
      Alike (.select table s) (.select table t)
  | query {q r : Query} (h : q.Alike r) : Alike (.query q) (.query r)
  | count {q r : Query} (h : q.Alike r) : Alike (.count q) (.count r)
  | update {u v : Update} (h : u.Alike v) : Alike (.update u) (.update v)
  | delete {d e : Deletion} (h : d.Alike e) : Alike (.delete d) (.delete e)

variable {options : Options}

theorem CommonTable.compile_alike {table other : CommonTable} (h : table.Alike other)
    (inner : ∀ q r, table.body = .query q → q.Alike r →
      Agree Statement.Alike (q.compile options) (r.compile options)) :
    Agree Statement.Alike (table.compile options) (other.compile options) := by
  obtain ⟨name, columns, body, recursive⟩ := table
  cases h with
  | @mk _ body' hb =>
      have bodies : Agree Statement.Alike (body.compile options name)
          (body'.compile options name) := by
        cases hb with
        | query hq => exact inner _ _ rfl hq
        | raw sql => exact .of_eq .refl rfl
      unfold CommonTable.compile
      refine .after _ fun _ => .after _ fun _ => bodies.bind fun part part' alike => ?_
      exact .ok (((Statement.Alike.refl _).append alike).append (.refl _))

theorem CommonTable.anyRecursive_alike {tables others : List CommonTable}
    (h : List.Forall₂ CommonTable.Alike tables others) :
    CommonTable.anyRecursive tables = CommonTable.anyRecursive others := by
  induction h with
  | nil => rfl
  | cons first _ ih =>
      rw [anyRecursive, anyRecursive, List.any_cons, List.any_cons]
      cases first
      exact congrArg _ ih

theorem CommonTable.clauseOf_alike (recursive : Bool) {entries others : List Statement}
    (h : List.Forall₂ Statement.Alike entries others) :
    (CommonTable.clauseOf recursive entries).Alike (CommonTable.clauseOf recursive others) := by
  cases h with
  | nil => exact .refl _
  | cons first rest => exact (Statement.Alike.refl _).append (.joined ", " (.cons first rest))

namespace Query

theorem preambleOf_alike {tables tables' : List CommonTable} (preamble : Option String)
    {entries entries' : List Statement} (ht : List.Forall₂ CommonTable.Alike tables tables')
    (he : List.Forall₂ Statement.Alike entries entries') :
    (preambleOf tables preamble entries).Alike (preambleOf tables' preamble entries') := by
  have recursive := CommonTable.anyRecursive_alike ht
  cases ht with
  | nil => exact .refl _
  | cons first rest =>
      rw [preambleOf, preambleOf, ← recursive]
      exact (CommonTable.clauseOf_alike _ he).append (.refl _)

theorem sourceClause_alike {q r : Query} (h : q.Alike r) :
    Agree Statement.Alike q.sourceClause r.sourceClause := by
  cases h with
  | mk hf hc =>
      refine .after _ fun _ => .after _ fun _ => .after _ fun _ => ?_
      refine (Condition.whereClause_alike hf).bind fun part other alike => ?_
      exact .ok ((Statement.Alike.refl _).append alike)

theorem body_alike {q r : Query} (h : q.Alike r) : Agree Statement.Alike q.body r.body := by
  have source := sourceClause_alike h
  cases h
  refine source.bind fun part other alike => ?_
  exact .ok (((Statement.Alike.refl _).append alike).append (.refl _))

theorem compile_alike {q r : Query} (h : q.Alike r) :
    Agree Statement.Alike (q.compile options) (r.compile options) := by
  induction q using induct generalizing r with
  | step q ih =>
      have body := body_alike h
      cases h with
      | @mk _ filter common hf hc =>
          -- The hypothesis is about the tables of `q`, so each pair remembers where it is from.
          have each : List.Forall₂ (fun table other => table ∈ q.common ∧ table.Alike other)
              q.common common := (List.forall₂_and_left _ _).mpr ⟨fun _ h => h, hc⟩
          rw [compile_eq, compile_eq]
          refine (Agree.mapM (fun table other ht =>
            CommonTable.compile_alike ht.2 fun inner _ hi => ih table ht.1 inner hi) each).bind
              fun entries entries' he => body.bind fun part part' alike => ?_
          exact .ok (((preambleOf_alike q.preamble hc he).append alike).append (.refl _))

theorem compileCount_alike {q r : Query} (h : q.Alike r) :
    Agree Statement.Alike (q.compileCount options) (r.compileCount options) := by
  have body := body_alike h
  have source := sourceClause_alike h
  cases h with
  | @mk _ filter common hf hc =>
      simp only [compileCount, CommonTable.compileAll_eq]
      refine (Agree.mapM (fun table other ht => CommonTable.compile_alike ht
        fun inner _ _ => compile_alike) hc).bind fun entries entries' he => ?_
      have preamble := preambleOf_alike q.preamble hc he
      refine .ite ?_ ?_
      · refine body.bind fun part part' alike => ?_
        exact .ok (((preamble.append (.refl _)).append alike).append (.refl _))
      · refine source.bind fun part part' alike => ?_
        exact .ok ((preamble.append (.refl _)).append alike)

end Query

theorem TableSelect.compile_alike {s t : TableSelect} (table : String) (h : s.Alike t) :
    Agree Statement.Alike (s.compile options table) (t.compile options table) := by
  cases h with
  | mk hf =>
      refine .after _ fun _ => (Condition.whereClause_alike hf).bind fun part other alike => ?_
      exact .ok (((Statement.Alike.refl _).append alike).append (.refl _))

theorem Update.compile_alike {u v : Update} (h : u.Alike v) :
    Agree Statement.Alike u.compile v.compile := by
  cases h with
  | @mk assignments filter ha hf =>
      have size : u.assignments.length = assignments.length := by
        simpa only [List.length_map] using congrArg List.length ha
      have given : u.assignments.isEmpty = assignments.isEmpty := by
        simpa only [List.isEmpty_map] using congrArg List.isEmpty ha
      have targets : u.assignments.map (fun a => a.1 ++ " = ?") =
          assignments.map fun a => a.1 ++ " = ?" := by
        simpa only [List.map_map, Function.comp_def] using congrArg (List.map (· ++ " = ?")) ha
      simp only [compile, given, ha]
      refine .after _ fun _ => .guard (.after _ fun _ => ?_)
      refine (Condition.whereClause_alike hf).bind fun part other alike => ?_
      rw [targets]
      refine .ok (Statement.Alike.append ⟨rfl, ?_⟩ alike)
      rw [List.length_map, List.length_map, size]

theorem Deletion.compile_alike {d e : Deletion} (h : d.Alike e) :
    Agree Statement.Alike d.compile e.compile := by
  cases h with
  | mk hf =>
      refine .after _ fun _ => (Condition.whereClause_alike hf).bind fun part other alike => ?_
      exact .ok ((Statement.Alike.refl _).append alike)

theorem Draft.compile_alike {a b : Draft} (h : a.Alike b) :
    Agree Statement.Alike (a.compile options) (b.compile options) := by
  cases h with
  | select table h => exact TableSelect.compile_alike table h
  | query h => exact Query.compile_alike h
  | count h => exact Query.compileCount_alike h
  | update h => exact Update.compile_alike h
  | delete h => exact Deletion.compile_alike h

end BoundSql
