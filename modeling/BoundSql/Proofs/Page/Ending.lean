import BoundSql.Page
import BoundSql.Proofs.Digits

/-! What a page adds to the end of a statement. -/
namespace BoundSql.Page

/-- The end of a statement that asks for some rows at a time: a limit and an offset, each of one at
least, and no offset without a limit. A number that is asked for is taken unless it is zero. -/
inductive Ending (page : Page) : String → Prop
  | whole (unlimited : ∀ n ∈ page.limit, n = 0) (start : ∀ m ∈ page.offset, m = 0) :
      Ending page ""
  | top {n : UInt64} (limit : page.limit = some n) (rows : 0 < n)
      (start : ∀ m ∈ page.offset, m = 0) : Ending page (" LIMIT " ++ Text.ofNat n.toNat)
  | slice {n m : UInt64} (limit : ∀ given ∈ page.limit, 0 < given → n = given) (rows : 0 < n)
      (offset : page.offset = some m) (skipped : 0 < m) :
      Ending page (" LIMIT " ++ Text.ofNat n.toNat ++ " OFFSET " ++ Text.ofNat m.toNat)

/-- Rows are skipped, and it is not said how many follow. -/
def OpenEnded (page : Page) : Prop :=
  (∃ m ∈ page.offset, 0 < m) ∧ ∀ n ∈ page.limit, n = 0

theorem positive_eq_none {n : Option UInt64} :
    n.filter (0 < ·) = none ↔ ∀ given ∈ n, given = 0 := by
  simp [Option.filter_eq_none_iff, UInt64.pos_iff_ne_zero]

theorem positive_eq_some {n : Option UInt64} {given : UInt64} :
    n.filter (0 < ·) = some given ↔ n = some given ∧ 0 < given := by
  simp [Option.filter_eq_some_iff]

theorem clause_of_start {page : Page} (start : ∀ m ∈ page.offset, m = 0) (pageSize : UInt64) :
    page.clause pageSize = term "LIMIT" (page.limit.filter (0 < ·)) := by
  have offset := positive_eq_none.mpr start
  cases limit : page.limit.filter (0 < ·) <;> simp [clause, resolve, limit, offset, term]

theorem clause_of_skipped {page : Page} {m : UInt64} (given : page.offset = some m)
    (skipped : 0 < m) (pageSize : UInt64) :
    page.clause pageSize =
      " LIMIT " ++ Text.ofNat ((page.limit.filter (0 < ·)).getD pageSize).toNat ++
        " OFFSET " ++ Text.ofNat m.toNat := by
  have offset := positive_eq_some.mpr ⟨given, skipped⟩
  cases limit : page.limit.filter (0 < ·) <;>
    simp [clause, resolve, limit, offset, term, String.append_assoc]

theorem ending_clause {page : Page} {pageSize : UInt64}
    (covered : pageSize = 0 → ¬ page.OpenEnded) : page.Ending (page.clause pageSize) := by
  cases offset : page.offset.filter (0 < ·) with
  | none =>
      have start := positive_eq_none.mp offset
      rw [clause_of_start start]
      cases limit : page.limit.filter (0 < ·) with
      | none => exact .whole (positive_eq_none.mp limit) start
      | some n =>
          obtain ⟨asked, rows⟩ := positive_eq_some.mp limit
          exact .top asked rows start
  | some m =>
      obtain ⟨given, skipped⟩ := positive_eq_some.mp offset
      rw [clause_of_skipped given skipped]
      cases limit : page.limit.filter (0 < ·) with
      | none =>
          have unlimited := positive_eq_none.mp limit
          have rows : pageSize ≠ 0 := fun zero =>
            covered zero ⟨⟨m, given, skipped⟩, unlimited⟩
          refine .slice ?_ (UInt64.pos_iff_ne_zero.mpr rows) given skipped
          intro n asked positive
          exact absurd (unlimited n asked) (UInt64.pos_iff_ne_zero.mp positive)
      | some n =>
          obtain ⟨asked, rows⟩ := positive_eq_some.mp limit
          refine .slice ?_ rows given skipped
          intro other same _
          exact Option.some.inj (asked.symm.trans same)

/-- A limit of one at least does not begin with the digit zero. -/
theorem not_ending_zero {page : Page} {m : UInt64} (given : page.offset = some m)
    (skipped : 0 < m) (tail : String) : ¬ page.Ending (" LIMIT 0" ++ tail) := by
  have nonzero := UInt64.pos_iff_ne_zero.mp skipped
  intro ending
  generalize same : " LIMIT 0" ++ tail = text at ending
  cases ending with
  | whole _ start => exact nonzero (start m given)
  | top _ _ start => exact nonzero (start m given)
  | @slice n _ _ rows _ _ =>
      have digit : (Nat.toDigits 10 n.toNat).head? = some '0' := by
        have texts := congrArg (fun s => (s.toList.drop 7).head?) same.symm
        simpa [Text.ofNat, List.head?_append_of_ne_nil _ Nat.toDigits_ne_nil] using texts
      exact Text.head?_toDigits (UInt64.lt_iff_toNat_lt.mp rows) digit

/-- The end of a statement is as it should be, unless it has to do without a limit of its own while
the number of rows that stands in for it is zero. -/
theorem ending_clause_iff {page : Page} {pageSize : UInt64} :
    page.Ending (page.clause pageSize) ↔ (pageSize = 0 → ¬ page.OpenEnded) := by
  refine ⟨?_, ending_clause⟩
  rintro ending rfl ⟨⟨m, given, skipped⟩, unlimited⟩
  have zero : page.clause 0 = " LIMIT 0" ++ (" OFFSET " ++ Text.ofNat m.toNat) := by
    rw [clause_of_skipped given skipped, positive_eq_none.mpr unlimited, ← String.append_assoc]
    rfl
  rw [zero] at ending
  exact not_ending_zero given skipped _ ending

end BoundSql.Page
