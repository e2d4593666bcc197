import BoundSql.Proofs.Digits
import BoundSql.Proofs.Page.Paged

/-! How a query depends on the number of rows that stands in for a limit. The number is written
into the text, the same everywhere, wherever a query leaves out rows and has no limit of its own. -/
namespace BoundSql
open Outcome

/-- A statement with a text to be filled in, which is used in it or not. -/
inductive Uniform : (String → Statement) → Prop → Prop
  | fixed (s : Statement) : Uniform (fun _ => s) False
  | gap : Uniform (fun filler => .raw filler) True
  | append {f g : String → Statement} {p q : Prop} (first : Uniform f p) (second : Uniform g q) :
      Uniform (fun filler => f filler ++ g filler) (p ∨ q)

namespace Uniform
variable {f : String → Statement} {used : Prop}

theorem congr {p : Prop} (h : Uniform f used) (same : used ↔ p) : Uniform f p :=
  propext same ▸ h

/-- Texts around a statement use nothing. -/
theorem between (before after : Statement) (h : Uniform f used) :
    Uniform (fun filler => before ++ f filler ++ after) used := by
  apply (((fixed before).append h).append (fixed after)).congr
  simp only [false_or, or_false]

theorem args_eq (h : Uniform f used) (a b : String) : (f a).args = (f b).args := by
  induction h with
  | fixed s => rfl
  | gap => rfl
  | append _ _ first second =>
      rw [Statement.args_append, Statement.args_append, first, second]

theorem unused (h : Uniform f used) (free : ¬ used) (a b : String) : f a = f b := by
  induction h with
  | fixed s => rfl
  | gap => exact absurd trivial free
  | append _ _ first second =>
      rw [not_or] at free
      exact congrArg₂ (· ++ ·) (first free.1) (second free.2)

/-- The length of the text grows by that of the filler, once for each of its uses. -/
theorem length_sql (h : Uniform f used) :
    ∃ own uses, (used ↔ 0 < uses) ∧
      ∀ filler, (f filler).sql.length = own + uses * filler.length := by
  induction h with
  | fixed s => exact ⟨s.sql.length, 0, by simp, by simp⟩
  | gap => exact ⟨0, 1, by simp, by simp⟩
  | append _ _ first second =>
      obtain ⟨own, uses, iff, length⟩ := first
      obtain ⟨own', uses', iff', length'⟩ := second
      refine ⟨own + own', uses + uses', ?_, ?_⟩
      · rw [iff, iff']
        omega
      · intro filler
        rw [Statement.sql_append, String.length_append, length, length', Nat.add_mul]
        omega

/-- Fillers of one length stand at the same places, and so can be told apart there. -/
theorem eq_of_aligned (h : Uniform f used) (needed : used) {a b : String}
    (lengths : a.length = b.length) (same : (f a).sql = (f b).sql) : a = b := by
  induction h with
  | fixed s => exact needed.elim
  | gap => exact same
  | @append f g _ _ first second ihFirst ihSecond =>
      have aligned : (f a).sql.toList.length = (f b).sql.toList.length := by
        obtain ⟨own, uses, -, length⟩ := first.length_sql
        rw [String.length_toList, String.length_toList, length, length, lengths]
      have texts := congrArg String.toList same
      simp only [Statement.sql_append, String.toList_append] at texts
      obtain ⟨left, right⟩ := List.append_inj texts aligned
      obtain needed | needed := needed
      · exact ihFirst needed (String.toList_inj.mp left)
      · exact ihSecond needed (String.toList_inj.mp right)

/-- A filler that is used is told by the text. -/
theorem eq_of_used (h : Uniform f used) (needed : used) {a b : String} (same : f a = f b) :
    a = b := by
  have texts := congrArg Statement.sql same
  refine h.eq_of_aligned needed ?_ texts
  obtain ⟨own, uses, iff, length⟩ := h.length_sql
  have sizes : own + uses * a.length = own + uses * b.length := by
    rw [← length, ← length, texts]
  exact Nat.eq_of_mul_eq_mul_left (iff.mp needed) (Nat.add_left_cancel sizes)

end Uniform

theorem Uniform.joined {α : Type} {used : α → Prop} (separator : String) {xs : List α}
    {parts : List (String → Statement)}
    (h : List.Forall₂ (fun x f => Uniform f (used x)) xs parts) :
    Uniform (fun filler => .joined separator (parts.map (· filler))) (∃ x ∈ xs, used x) := by
  induction h with
  | nil => exact (fixed (.raw "")).congr (by simp)
  | @cons x f xs parts first rest ih =>
      cases rest with
      | nil =>
          have alone : (fun filler => Statement.joined separator [f filler]) = f := by
            funext filler
            exact Statement.joined_singleton separator (f filler)
          simp only [List.map_cons, List.map_nil, alone]
          exact first.congr (by simp)
      | cons next more =>
          simp only [List.map_cons, Statement.joined_cons]
          refine (Uniform.append (first.append (fixed (.raw separator))) ih).congr ?_
          simp

/-- How the outcome of a compilation depends on its options: it is always the same fault, or a
statement in which the rows of a page are used or not. -/
inductive Sized (compiled : Options → Except Fault Statement) (used : Prop) : Prop
  | fault (fault : Fault) (same : ∀ options, compiled options = .error fault)
  | statement (f : String → Statement) (uniform : Uniform f used)
      (same : ∀ options, compiled options = .ok (f (Text.ofNat options.pageSize.toNat)))

namespace Sized
variable {α : Type} {compiled : Options → Except Fault Statement} {used : Prop}

theorem of_error (fault : Fault) : Sized (fun _ => .error fault) used :=
  .fault fault fun _ => rfl

theorem of_constant (outcome : Except Fault Statement) (free : ¬ used) :
    Sized (fun _ => outcome) used := by
  cases outcome with
  | error fault => exact of_error fault
  | ok s => exact .statement _ ((Uniform.fixed s).congr (by simp [free])) fun _ => rfl

/-- A check that comes first does not know the options. -/
theorem after (check : Except Fault α) (h : Sized compiled used) :
    Sized (fun options => do let _ ← check; compiled options) used := by
  cases check with
  | error fault => exact of_error fault
  | ok _ => exact h

theorem between (before after : Statement) (h : Sized compiled used) :
    Sized (fun options => do let s ← compiled options; return before ++ s ++ after) used := by
  cases h with
  | fault fault same =>
      refine .fault fault ?_
      intro options
      rw [same]
      rfl
  | statement f uniform same =>
      refine .statement _ (uniform.between before after) ?_
      intro options
      rw [same]
      rfl

end Sized

/-- Compilations in turn: they always have the same fault, or each has a statement of its own. -/
theorem sized_mapM {α : Type} {compile : Options → α → Except Fault Statement} {used : α → Prop}
    {xs : List α} (each : ∀ x ∈ xs, Sized (compile · x) (used x)) :
    (∃ fault, ∀ options, xs.mapM (compile options) = .error fault) ∨
      ∃ parts, List.Forall₂ (fun x f => Uniform f (used x)) xs parts ∧
        ∀ options, xs.mapM (compile options) =
          .ok (parts.map (· (Text.ofNat options.pageSize.toNat))) := by
  induction xs with
  | nil => exact .inr ⟨[], .nil, fun _ => rfl⟩
  | cons x xs ih =>
      obtain ⟨first, later⟩ := List.forall_mem_cons.mp each
      simp only [List.mapM_cons]
      cases first with
      | fault fault same =>
          refine .inl ⟨fault, ?_⟩
          intro options
          rw [same]
          rfl
      | statement f uniform same =>
          obtain ⟨fault, fails⟩ | ⟨parts, uniforms, compiled⟩ := ih later
          · refine .inl ⟨fault, ?_⟩
            intro options
            rw [same, fails]
            rfl
          · refine .inr ⟨f :: parts, .cons uniform uniforms, ?_⟩
            intro options
            rw [same, compiled]
            rfl

theorem Page.uniform_clause (page : Page) :
    ∃ f, Uniform f page.OpenEnded ∧
      ∀ pageSize : UInt64, .raw (page.clause pageSize) = f (Text.ofNat pageSize.toNat) := by
  by_cases start : ∀ m ∈ page.offset, m = 0
  · refine ⟨_, (Uniform.fixed (.raw (page.clause 0))).congr ?_, ?_⟩
    · rw [false_iff]
      rintro ⟨⟨m, given, skipped⟩, -⟩
      exact UInt64.pos_iff_ne_zero.mp skipped (start m given)
    · intro pageSize
      rw [clause_of_start start, clause_of_start start]
  · push Not at start
    obtain ⟨m, given, nonzero⟩ := start
    have skipped := UInt64.pos_iff_ne_zero.mpr nonzero
    by_cases unlimited : ∀ n ∈ page.limit, n = 0
    · have open_ : page.OpenEnded := ⟨⟨m, given, skipped⟩, unlimited⟩
      refine ⟨_, (Uniform.gap.between (.raw " LIMIT ")
        (.raw (" OFFSET " ++ Text.ofNat m.toNat))).congr (by simp [open_]), ?_⟩
      intro pageSize
      rw [clause_of_skipped given skipped, positive_eq_none.mpr unlimited]
      simp [Statement.ext_iff, String.append_assoc]
    · refine ⟨_, (Uniform.fixed (.raw (page.clause 0))).congr ?_, ?_⟩
      · rw [false_iff]
        exact fun opened => unlimited opened.2
      · intro pageSize
        rw [clause_of_skipped given skipped, clause_of_skipped given skipped]
        cases limit : page.limit.filter (0 < ·) with
        | none => exact absurd (positive_eq_none.mp limit) unlimited
        | some n => rfl

namespace Query

/-- That a query, or one within it, leaves out rows and has no limit of its own. -/
def NeedsSize (q : Query) : Prop := ∃ inner : Query, inner.Within q ∧ inner.page.OpenEnded

end Query

/-- The same of the query that a common table consists of, if it does. -/
def CommonTable.NeedsSize (table : CommonTable) : Prop :=
  ∃ q, table.body = .query q ∧ q.NeedsSize

theorem Query.needsSize_iff {q : Query} :
    q.NeedsSize ↔ (∃ table ∈ q.common, table.NeedsSize) ∨ q.page.OpenEnded := by
  constructor
  · rintro ⟨inner, within, opened⟩
    cases within with
    | itself => exact .inr opened
    | table listed is within => exact .inl ⟨_, listed, _, is, inner, within, opened⟩
  · rintro (⟨table, listed, body, is, inner, within, opened⟩ | opened)
    · exact ⟨inner, .table listed is within, opened⟩
    · exact ⟨q, .itself q, opened⟩

theorem CommonTable.sized_compile {table : CommonTable}
    (inside : ∀ q, table.body = .query q → Sized (q.compile ·) q.NeedsSize) :
    Sized (CommonTable.compile · table) table.NeedsSize := by
  obtain ⟨name, columns, body, recursive⟩ := table
  have sized : Sized (TableBody.compile · name body)
      (NeedsSize ⟨name, columns, body, recursive⟩) := by
    cases body with
    | query q =>
        have same : NeedsSize ⟨name, columns, .query q, recursive⟩ = q.NeedsSize := by
          simp [NeedsSize]
        simp only [TableBody.compile, same]
        exact inside q rfl
    | raw sql =>
        simp only [TableBody.compile]
        refine .of_constant _ ?_
        rintro ⟨q, is, -⟩
        cases is
  unfold CommonTable.compile
  exact .after _ (.after _ (sized.between _ _))

theorem Query.uniform_preambleOf (preamble : Option String) {common : List CommonTable}
    {parts : List (String → Statement)}
    (h : List.Forall₂ (fun table f => Uniform f table.NeedsSize) common parts) :
    Uniform (fun filler => preambleOf common preamble (parts.map (· filler)))
      (∃ table ∈ common, table.NeedsSize) := by
  have joined := Uniform.joined ", " h
  cases h with
  | nil => exact (Uniform.fixed _).congr (by simp)
  | cons first rest => exact joined.between (.raw _) (.raw " ")

/-- The rows of a page are written into the text of a query exactly if a query within it needs
them. -/
theorem Query.sized_compile (q : Query) : Sized (q.compile ·) q.NeedsSize := by
  induction q using induct with
  | step q ih =>
      have tables : ∀ table ∈ q.common, Sized (CommonTable.compile · table) table.NeedsSize :=
        fun table listed => CommonTable.sized_compile (ih table listed)
      simp only [compile_eq]
      obtain ⟨fault, fails⟩ | ⟨parts, uniforms, compiled⟩ := sized_mapM tables
      · refine .fault fault ?_
        intro options
        rw [fails]
        rfl
      · simp only [compiled]
        cases q.body with
        | error fault => exact .of_error fault
        | ok body =>
            obtain ⟨page, uniform, clause⟩ := q.page.uniform_clause
            refine .statement _ ((((uniform_preambleOf q.preamble uniforms).append
              (.fixed body)).append ((Uniform.fixed (.raw (listClause "ORDER BY" q.orderBy))).append
                uniform)).congr ?_) ?_
            · rw [needsSize_iff]
              simp
            · intro options
              rw [← clause]
              rfl

/-- Statements of a query for two options differ exactly if the options differ in the rows of a page
and the query, or one within it, needs these. The arguments and the fault are the same for all
options, and the rows of an insertion play no part. -/
theorem Query.compile_eq_iff_options (q : Query) (first second : Options) :
    (∀ s, q.compile first = .ok s →
      (q.compile first = q.compile second ↔ first.pageSize = second.pageSize ∨
        ∀ inner : Query, inner.Within q → ¬ inner.page.OpenEnded)) ∧
      (q.compile first).map Statement.args = (q.compile second).map Statement.args ∧
      ∀ rows, q.compile { first with maxBatchRows := rows } = q.compile first := by
  have digits : ∀ a b : UInt64, Text.ofNat a.toNat = Text.ofNat b.toNat → a = b := by
    intro a b same
    have values := congrArg (fun text => Text.natOf text.toList) same
    simpa [Text.ofNat, Text.natOf_toDigits, UInt64.toNat_inj] using values
  have needs : (∀ inner : Query, inner.Within q → ¬ inner.page.OpenEnded) ↔ ¬ q.NeedsSize := by
    simp [NeedsSize]
  rw [needs]
  cases q.sized_compile with
  | fault fault same =>
      refine ⟨?_, by rw [same, same], fun rows => by rw [same, same]⟩
      intro s compiled
      rw [same] at compiled
      cases compiled
  | statement f uniform same =>
      refine ⟨?_, ?_, fun rows => by rw [same, same]⟩
      · intro s _
        rw [same, same]
        constructor
        · intro equal
          by_cases used : q.NeedsSize
          · exact .inl (digits _ _ (uniform.eq_of_used used (Except.ok.inj equal)))
          · exact .inr used
        · rintro (size | unused)
          · rw [size]
          · rw [uniform.unused unused]
      · rw [same, same]
        exact congrArg Except.ok (uniform.args_eq _ _)

set_option maxRecDepth 100000 in
/-- A common table alone can make the page size matter. -/
theorem compile_ne_firstOfLater :
    ∃ s, firstOfLater.compile {} = .ok s ∧ ¬ firstOfLater.page.OpenEnded ∧
      firstOfLater.compile {} ≠ firstOfLater.compile { pageSize := 7 } := by
  have compiled : firstOfLater.compile {} = .ok ⟨"WITH later AS (SELECT * FROM users " ++
      "LIMIT 20 OFFSET 40) SELECT * FROM later LIMIT 5", []⟩ := by rfl
  have limited : ¬ firstOfLater.page.OpenEnded := by
    rintro ⟨-, unlimited⟩
    exact absurd (unlimited 5 rfl) (by decide)
  refine ⟨_, compiled, limited, ?_⟩
  rw [ne_eq, (firstOfLater.compile_eq_iff_options {} { pageSize := 7 }).1 _ compiled]
  rintro (same | free)
  · exact absurd same (by decide)
  · refine free _ (.table List.mem_cons_self rfl (.itself _)) ⟨⟨40, rfl, by decide⟩, ?_⟩
    rintro _ ⟨⟩
    rfl

end BoundSql
