import BoundSql.Proofs.Draft
import BoundSql.Proofs.Page.Ending

/-! The pages of selections and of queries, also of those that common tables consist of. Each shows
at the end of the text that its query compiles to, and that text stands in the text of the whole. -/
namespace BoundSql
open Outcome

namespace Query

/-- A query within another one: this one itself, or a query within the body of a common table. -/
inductive Within : Query → Query → Prop
  | itself (q : Query) : Within q q
  | table {q inner body : Query} {table : CommonTable} (listed : table ∈ q.common)
      (is : table.body = .query body) (within : Within inner body) : Within inner q

/-- The query for all rows. -/
def unpaged (q : Query) : Query := { q with limit := none, offset := none }

end Query

namespace TableSelect

def page (s : TableSelect) : Page := ⟨s.limit, s.offset⟩

/-- The selection of all rows. -/
def unpaged (s : TableSelect) : TableSelect := { s with limit := none, offset := none }

end TableSelect

/-- That a statement is the one for all rows and, after it, what limits these to a page. -/
def Page.Limits (page : Page) (all s : Statement) : Prop :=
  ∃ text, page.Ending text ∧ s = all ++ .raw text

theorem Page.limits_iff {page : Page} {pageSize : UInt64} {all : Statement} :
    page.Limits all (all ++ .raw (page.clause pageSize)) ↔
      (pageSize = 0 → ¬ page.OpenEnded) := by
  rw [← ending_clause_iff]
  constructor
  · rintro ⟨text, ending, same⟩
    rwa [Statement.append_raw_cancel same]
  · intro ending
    exact ⟨_, ending, rfl⟩

variable {options : Options}

namespace Query

/-- The page comes last, and nothing else depends on it. -/
theorem compile_unpaged (options : Options) (q : Query) :
    q.compile options =
      (q.unpaged.compile options).map (· ++ .raw (q.page.clause options.pageSize)) := by
  have tail : q.unpaged.tail options ++ q.page.clause options.pageSize = q.tail options :=
    congrArg (· ++ _) String.append_empty
  have common : q.unpaged.common = q.common := rfl
  have preamble : q.unpaged.preamble = q.preamble := rfl
  have body : q.unpaged.body = q.body := rfl
  rw [compile_eq, compile_eq, common, preamble, body]
  cases q.common.mapM (CommonTable.compile options) with
  | error fault => rfl
  | ok entries =>
      cases q.body with
      | error fault => rfl
      | ok body =>
          refine congrArg Except.ok ?_
          simp [Statement.ext_iff, ← tail, String.append_assoc]

end Query

theorem TableSelect.compile_unpaged (options : Options) (table : String) (s : TableSelect) :
    s.compile options table =
      (s.unpaged.compile options table).map (· ++ .raw (s.page.clause options.pageSize)) := by
  have unpaged : (Page.mk s.unpaged.limit s.unpaged.offset).clause options.pageSize = "" := rfl
  have filter : s.unpaged.filter = s.filter := rfl
  have groupBy : s.unpaged.groupBy = s.groupBy := rfl
  have orderBy : s.unpaged.orderBy = s.orderBy := rfl
  simp only [compile, unpaged, filter, groupBy, orderBy]
  cases Name.checkTable table with
  | error fault => rfl
  | ok _ =>
      cases Condition.whereClause s.filter with
      | error fault => rfl
      | ok filter =>
          refine congrArg Except.ok ?_
          simp [Statement.ext_iff, page, String.append_assoc]

namespace Statement
variable {part whole : Statement}

/-- That the text of a statement stands in the text of another one. -/
def Inside (part whole : Statement) : Prop := part.sql.toList <:+: whole.sql.toList

theorem StandsIn.inside (h : part.StandsIn whole) : part.Inside whole := by
  obtain ⟨before, after, rfl⟩ := h
  exact ⟨before.sql.toList, after.sql.toList, by simp⟩

end Statement

namespace Query

theorem entry_standsIn {q : Query} {entries : List Statement} {entry : Statement}
    (present : q.common ≠ []) (member : entry ∈ entries) :
    entry.StandsIn (preambleOf q.common q.preamble entries) := by
  have listed := List.ne_nil_of_mem member
  rw [preambleOf, CommonTable.clauseOf, List.isEmpty_eq_false_iff.mpr present,
    List.isEmpty_eq_false_iff.mpr listed, if_neg (by decide), if_neg (by decide)]
  exact ((Statement.standsIn_joined member).after _).before _

/-- A query within another one compiles if that does, and its statement stands there. -/
theorem compile_within {q inner : Query} (within : inner.Within q) {s : Statement}
    (compiled : q.compile options = .ok s) :
    ∃ t, inner.compile options = .ok t ∧ t.StandsIn s := by
  induction within generalizing s with
  | itself q => exact ⟨s, compiled, .refl s⟩
  | @table q inner body table listed is _ ih =>
      obtain ⟨entries, each, rest, -, rfl⟩ := compile_ok.mp compiled
      obtain ⟨entry, member, hentry⟩ := exists_right each listed
      obtain ⟨-, -, part, hpart, rfl⟩ := CommonTable.compile_ok.mp hentry
      rw [is, TableBody.compile] at hpart
      obtain ⟨t, made, stands⟩ := ih hpart
      have entered := entry_standsIn (List.ne_nil_of_mem listed) member
      have enclosed := ((stands.after _).before _).trans entered
      exact ⟨t, made, (enclosed.before _).before _⟩

/-- That a statement has the page of its query at the end, and so have, in its text, the statements
of all queries within that. -/
def Paged (options : Options) (q : Query) (s : Statement) : Prop :=
  ∀ inner : Query, inner.Within q → ∃ all t, inner.unpaged.compile options = .ok all ∧
    inner.compile options = .ok t ∧ t.Inside s ∧ inner.page.Limits all t

theorem paged_iff {q : Query} {s : Statement} (compiled : q.compile options = .ok s) :
    q.Paged options s ↔
      (options.pageSize = 0 → ∀ inner : Query, inner.Within q → ¬ inner.page.OpenEnded) := by
  constructor
  · intro paged zero inner within
    obtain ⟨all, t, hall, made, -, limits⟩ := paged inner within
    rw [compile_unpaged, hall] at made
    cases made
    exact Page.limits_iff.mp limits zero
  · intro covered inner within
    obtain ⟨t, made, stands⟩ := compile_within within compiled
    have parts := made
    rw [compile_unpaged, map_ok] at parts
    obtain ⟨all, hall, rfl⟩ := parts
    exact ⟨all, _, hall, made, stands.inside,
      Page.limits_iff.mpr fun zero => covered zero inner within⟩

end Query

theorem TableSelect.limits_iff {table : String} {s : TableSelect} {whole : Statement}
    (compiled : s.compile options table = .ok whole) :
    (∃ all, s.unpaged.compile options table = .ok all ∧ s.page.Limits all whole) ↔
      (options.pageSize = 0 → ¬ s.page.OpenEnded) := by
  rw [compile_unpaged, map_ok] at compiled
  obtain ⟨all, hall, rfl⟩ := compiled
  have ended : s.page.Limits all (all ++ .raw (s.page.clause options.pageSize)) ↔
      (options.pageSize = 0 → ¬ s.page.OpenEnded) := Page.limits_iff
  rw [← ended]
  constructor
  · rintro ⟨other, hother, limits⟩
    cases hall.symm.trans hother
    exact limits
  · intro limits
    exact ⟨all, hall, limits⟩

/-- Selections and queries end with the pages that they ask for, and so do the queries that common
tables consist of, except where rows are skipped without a limit while the number of rows that
stands in for one is zero. -/
theorem paged_unless_withheld (options : Options) :
    (∀ (table : String) (s : TableSelect) (whole : Statement),
      s.compile options table = .ok whole →
        ((∃ all, s.unpaged.compile options table = .ok all ∧ s.page.Limits all whole) ↔
          (options.pageSize = 0 → ¬ s.page.OpenEnded))) ∧
      ∀ (q : Query) (s : Statement), q.compile options = .ok s →
        (q.Paged options s ↔
          (options.pageSize = 0 → ∀ inner : Query, inner.Within q → ¬ inner.page.OpenEnded)) :=
  ⟨fun _ _ _ compiled => TableSelect.limits_iff compiled, fun _ _ => Query.paged_iff⟩

/-- Rows after the first forty. -/
def later : TableSelect where
  offset := some 40

/-- The first rows of a common table that leaves out some and has a limit of zero. -/
def firstOfLater : Query where
  source := "later"
  limit := some 5
  offset := some 0
  common := [{
    name := "later"
    body := .query { source := "users", limit := some 0, offset := some 40 } }]

set_option maxRecDepth 100000 in
theorem paged_firstOfLater :
    ∃ whole s, later.compile {} "users" = .ok whole ∧ firstOfLater.compile {} = .ok s ∧
      whole.sql = "SELECT * FROM users LIMIT 20 OFFSET 40" ∧
      s.sql = "WITH later AS (SELECT * FROM users LIMIT 20 OFFSET 40) " ++
        "SELECT * FROM later LIMIT 5" ∧
      (∃ all, later.unpaged.compile {} "users" = .ok all ∧ later.page.Limits all whole) ∧
      firstOfLater.Paged {} s := by
  have selected : later.compile {} "users" =
      .ok ⟨"SELECT * FROM users LIMIT 20 OFFSET 40", []⟩ := by rfl
  have compiled : firstOfLater.compile {} = .ok ⟨"WITH later AS (SELECT * FROM users " ++
      "LIMIT 20 OFFSET 40) SELECT * FROM later LIMIT 5", []⟩ := by rfl
  have sized : ({} : Options).pageSize ≠ 0 := by decide
  obtain ⟨selections, queries⟩ := paged_unless_withheld {}
  exact ⟨_, _, selected, compiled, rfl, rfl,
    (selections "users" later _ selected).mpr fun zero => absurd zero sized,
    (queries firstOfLater _ compiled).mpr fun zero => absurd zero sized⟩

set_option maxRecDepth 100000 in
/-- Nothing is left of the rows when the number that stands in for a limit is zero. -/
theorem later_withheld :
    ∃ all whole, later.unpaged.compile { pageSize := 0 } "users" = .ok all ∧
      later.compile { pageSize := 0 } "users" = .ok whole ∧
      whole.sql = "SELECT * FROM users LIMIT 0 OFFSET 40" ∧ ¬ later.page.Limits all whole := by
  have all : later.unpaged.compile { pageSize := 0 } "users" =
      .ok ⟨"SELECT * FROM users", []⟩ := by rfl
  have compiled : later.compile { pageSize := 0 } "users" =
      .ok ⟨"SELECT * FROM users LIMIT 0 OFFSET 40", []⟩ := by rfl
  have openEnded : later.page.OpenEnded := ⟨⟨40, rfl, by decide⟩, fun _ h => nomatch h⟩
  refine ⟨_, _, all, compiled, rfl, ?_⟩
  intro limits
  exact (TableSelect.limits_iff compiled).mp ⟨_, all, limits⟩ rfl openEnded

end BoundSql
