import BoundSql.Proofs.Page.Paged

/-! Pages of one size beside one another. Every row is on exactly one of them, as the limit and the
offset tell that are read off the end of the statement. -/
namespace BoundSql
open Outcome

namespace Text

/-- The number that ends a text after a given word, and the text before that word. The characters
of the text are given from the last to the first. -/
def numberAfter? (word reversed : List Char) : Option (Nat × List Char) :=
  let before := reversed.dropWhile Char.isDigit
  if word.reverse.isPrefixOf before then
    (nat? (reversed.takeWhile Char.isDigit).reverse).map (·, before.drop word.length)
  else none

variable (reversed word : List Char) (n : Nat)

theorem digits_reversed : ∀ c ∈ (Nat.toDigits 10 n).reverse, c.isDigit = true := by
  intro c hc
  exact isDigit_of_mem c (List.mem_reverse.mp hc)

theorem takeWhile_digits :
    ((Nat.toDigits 10 n).reverse ++ ' ' :: reversed).takeWhile Char.isDigit =
      (Nat.toDigits 10 n).reverse := by
  rw [List.takeWhile_append_of_pos (digits_reversed n), List.takeWhile_cons_of_neg (by decide),
    List.append_nil]

theorem dropWhile_digits :
    ((Nat.toDigits 10 n).reverse ++ ' ' :: reversed).dropWhile Char.isDigit = ' ' :: reversed := by
  rw [List.dropWhile_append_of_pos (digits_reversed n), List.dropWhile_cons_of_neg (by decide)]

theorem numberAfter?_digits :
    numberAfter? (word ++ [' '])
        ((Nat.toDigits 10 n).reverse ++ ' ' :: (word.reverse ++ reversed)) =
      some (n, reversed) := by
  simp [numberAfter?, takeWhile_digits, dropWhile_digits, nat?_toDigits]

theorem numberAfter?_other {word reversed : List Char}
    (other : (word.reverse.isPrefixOf (' ' :: reversed)) = false) (n : Nat) :
    numberAfter? word ((Nat.toDigits 10 n).reverse ++ ' ' :: reversed) = none := by
  simp [numberAfter?, dropWhile_digits, other]

end Text

namespace Page

/-- The rows that a statement asks for with its last words: how many are left out, none if the text
does not say, and how many follow. -/
def window? (sql : String) : Option (Nat × Nat) :=
  match Text.numberAfter? " OFFSET ".toList sql.toList.reverse with
  | some (offset, before) =>
    (Text.numberAfter? " LIMIT ".toList before).map fun found => (offset, found.1)
  | none =>
    (Text.numberAfter? " LIMIT ".toList sql.toList.reverse).map fun found => (0, found.1)

theorem window?_top (sql : String) (n : Nat) :
    window? (sql ++ (" LIMIT " ++ Text.ofNat n)) = some (0, n) := by
  have chars : (sql ++ (" LIMIT " ++ Text.ofNat n)).toList.reverse =
      (Nat.toDigits 10 n).reverse ++ ' ' :: (" LIMIT".toList.reverse ++ sql.toList.reverse) := by
    simp [Text.ofNat]
  have other : (" OFFSET ".toList.reverse.isPrefixOf
      (' ' :: (" LIMIT".toList.reverse ++ sql.toList.reverse))) = false := by rfl
  have limit : " LIMIT ".toList = " LIMIT".toList ++ [' '] := by rfl
  rw [window?, chars, Text.numberAfter?_other other, limit, Text.numberAfter?_digits]
  rfl

theorem window?_slice (sql : String) (n m : Nat) :
    window? (sql ++ (" LIMIT " ++ Text.ofNat n ++ " OFFSET " ++ Text.ofNat m)) = some (m, n) := by
  have chars : (sql ++ (" LIMIT " ++ Text.ofNat n ++ " OFFSET " ++ Text.ofNat m)).toList.reverse =
      (Nat.toDigits 10 m).reverse ++ ' ' :: (" OFFSET".toList.reverse ++
        ((Nat.toDigits 10 n).reverse ++ ' ' ::
          (" LIMIT".toList.reverse ++ sql.toList.reverse))) := by
    simp [Text.ofNat]
  have offset : " OFFSET ".toList = " OFFSET".toList ++ [' '] := by rfl
  have limit : " LIMIT ".toList = " LIMIT".toList ++ [' '] := by rfl
  rw [window?, chars, offset, Text.numberAfter?_digits, limit]
  dsimp only
  rw [Text.numberAfter?_digits]
  rfl

/-- How many rows come before the page of a number. -/
def start (number size : UInt64) : Nat := min ((number.toNat - 1) * size.toNat) (UInt64.size - 1)

theorem window?_ofNumber {size : UInt64} (positive : 0 < size) (number pageSize : UInt64)
    (sql : String) :
    window? (sql ++ (ofNumber number size).clause pageSize) =
      some (start number size, size.toNat) := by
  have limit : (ofNumber number size).limit.filter (0 < ·) = some size :=
    positive_eq_some.mpr ⟨rfl, positive⟩
  have offset : (ofNumber number size).offset = some (.ofNat (start number size)) := rfl
  have exact : (UInt64.ofNat (start number size)).toNat = start number size := by
    apply UInt64.toNat_ofNat_of_lt'
    unfold start UInt64.size
    omega
  by_cases first : UInt64.ofNat (start number size) = 0
  · have begins : start number size = 0 := by
      rw [← exact, first]
      rfl
    have start : ∀ m ∈ (ofNumber number size).offset, m = 0 := by
      rw [offset, first]
      rintro m ⟨⟩
      rfl
    rw [clause_of_start start, limit, begins, ← window?_top sql]
    simp [term]
  · have skipped := UInt64.pos_iff_ne_zero.mpr first
    rw [clause_of_skipped offset skipped, limit, exact]
    exact window?_slice sql _ _

/-- The rows before the last number are cut into pages without gaps. -/
theorem existsUnique_page {size : UInt64} (positive : 0 < size) {row : Nat}
    (within : row < UInt64.size - 1) :
    ∃! number : UInt64, 0 < number ∧ start number size ≤ row ∧
      row < start number size + size.toNat := by
  have rows : 0 < size.toNat := UInt64.lt_iff_toNat_lt.mp positive
  have before := Nat.div_mul_le_self row size.toNat
  have after := Nat.lt_div_mul_add rows (a := row)
  have pages : row / size.toNat ≤ row := Nat.div_le_self row size.toNat
  have exact : (UInt64.ofNat (row / size.toNat + 1)).toNat = row / size.toNat + 1 := by
    apply UInt64.toNat_ofNat_of_lt'
    unfold UInt64.size at within ⊢
    omega
  have begins : start (.ofNat (row / size.toNat + 1)) size = row / size.toNat * size.toNat := by
    rw [start, exact, Nat.add_sub_cancel]
    exact Nat.min_eq_left (by omega)
  refine ⟨.ofNat (row / size.toNat + 1), ?_, ?_⟩
  · refine ⟨?_, begins ▸ before, begins ▸ after⟩
    rw [UInt64.lt_iff_toNat_lt, exact]
    exact Nat.succ_pos _
  · rintro number ⟨counted, low, high⟩
    have counted : 0 < number.toNat := UInt64.lt_iff_toNat_lt.mp counted
    -- The row is below the last number, so the page does not begin there.
    have early : start number size = (number.toNat - 1) * size.toNat := by
      unfold start at low ⊢
      omega
    rw [early] at low high
    have same : row / size.toNat = number.toNat - 1 :=
      Nat.div_eq_of_lt_le low (by rwa [Nat.succ_mul])
    rw [← UInt64.toNat_inj, exact, same]
    omega

end Page

namespace Query
variable {options : Options} {q : Query}

/-- That the statement for a page of a query asks for the row of an index, counted from zero. -/
def OnPage (options : Options) (q : Query) (number size : UInt64) (row : Nat) : Prop :=
  ∃ s offset limit, (q.apply (.page number size)).compile options = .ok s ∧
    Page.window? s.sql = some (offset, limit) ∧ offset ≤ row ∧ row < offset + limit

/-- A query that compiles does so with any page. -/
theorem compile_page {s : Statement} (compiled : q.compile options = .ok s) :
    ∃ all : Statement, ∀ number size, (q.apply (.page number size)).compile options =
      .ok (all ++ .raw ((Page.ofNumber number size).clause options.pageSize)) := by
  rw [compile_unpaged, map_ok] at compiled
  obtain ⟨all, hall, -⟩ := compiled
  refine ⟨all, fun number size => ?_⟩
  have same : (q.apply (.page number size)).unpaged = q.unpaged := rfl
  rw [compile_unpaged, same, hall]
  rfl

theorem onPage_iff (valid : ∃ s, q.compile options = .ok s) {size : UInt64} (positive : 0 < size)
    (number : UInt64) (row : Nat) :
    q.OnPage options number size row ↔
      Page.start number size ≤ row ∧ row < Page.start number size + size.toNat := by
  obtain ⟨s, compiled⟩ := valid
  obtain ⟨all, pages⟩ := compile_page compiled
  have shown :
      Page.window? (all ++ .raw ((Page.ofNumber number size).clause options.pageSize)).sql =
      some (Page.start number size, size.toNat) :=
    Page.window?_ofNumber positive number options.pageSize all.sql
  constructor
  · rintro ⟨t, offset, limit, made, read, holds⟩
    cases (pages number size).symm.trans made
    cases shown.symm.trans read
    exact holds
  · intro holds
    exact ⟨_, _, _, pages number size, shown, holds⟩

/-- Pages of one size tile the rows of a query: each row is on exactly one page. Page zero is the
first page, and a page whose number is too large begins at the largest offset. -/
theorem pages_tile (options : Options) (q : Query) (valid : ∃ s, q.compile options = .ok s) :
    (∀ size : UInt64, 0 < size → ∀ row < UInt64.size - 1,
      ∃! number : UInt64, 0 < number ∧ q.OnPage options number size row) ∧
      (∀ size, (q.apply (.page 0 size)).compile options =
        (q.apply (.page 1 size)).compile options) ∧
      ∀ number size, ∃ s, (q.apply (.page number size)).compile options = .ok s ∧
        (UInt64.size - 1 < (number.toNat - 1) * size.toNat →
          Page.window? s.sql = some (UInt64.size - 1, size.toNat)) := by
  refine ⟨?_, ?_, ?_⟩
  · intro size positive row within
    simp only [onPage_iff valid positive]
    exact Page.existsUnique_page positive within
  · intro size
    have first : Page.ofNumber 0 size = Page.ofNumber 1 size := rfl
    simp only [apply, first]
  · intro number size
    obtain ⟨s, compiled⟩ := valid
    obtain ⟨all, pages⟩ := compile_page compiled
    refine ⟨_, pages number size, ?_⟩
    intro large
    have positive : 0 < size := by
      rw [UInt64.pos_iff_ne_zero]
      rintro rfl
      simp at large
    have last : Page.start number size = UInt64.size - 1 := Nat.min_eq_right large.le
    rw [← last]
    exact Page.window?_ofNumber positive number options.pageSize all.sql

/-- The orders that are open, with a page to be chosen. -/
def openOrders : Query where
  source := "orders"
  filter := some (.leaf "state" "=" (.text "open LIMIT 3"))
  orderBy := ["id"]

set_option maxRecDepth 100000 in
theorem pages_tile_openOrders :
    (∃ s, openOrders.compile {} = .ok s) ∧ (∃! number : UInt64, 0 < number ∧
      openOrders.OnPage {} number 9223372036854775808 18446744073709551614) ∧
      ∃ s, (openOrders.apply (.page 3 9223372036854775808)).compile {} = .ok s ∧
        Page.window? s.sql = some (UInt64.size - 1, 9223372036854775808) := by
  have compiled : openOrders.compile {} =
      .ok ⟨"SELECT * FROM orders WHERE state = ? ORDER BY id", [.text "open LIMIT 3"]⟩ := by rfl
  obtain ⟨tile, -, fits⟩ := pages_tile {} openOrders ⟨_, compiled⟩
  obtain ⟨s, made, last⟩ := fits 3 9223372036854775808
  have row : 18446744073709551614 < UInt64.size - 1 := by decide
  exact ⟨⟨_, compiled⟩, tile 9223372036854775808 (by decide) _ row, s, made, last (by decide)⟩

end Query
end BoundSql
