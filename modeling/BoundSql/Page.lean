import BoundSql.Text.Digits

/-! The window of rows that a query returns. -/
namespace BoundSql

/-- The rows asked for: at most so many, after leaving out so many. -/
structure Page where
  limit : Option UInt64
  offset : Option UInt64
deriving DecidableEq

namespace Page

/-- The page of a number, counted from one, for pages of a given size. An offset past the largest
number stays at it. -/
def ofNumber (number size : UInt64) : Page :=
  let skipped := (number.toNat - 1) * size.toNat
  ⟨some size, some (UInt64.ofNat (min skipped (UInt64.size - 1)))⟩

/-- The page with zeros left out, and with a limit wherever rows are skipped. -/
def resolve (page : Page) (pageSize : UInt64) : Page :=
  let offset := page.offset.filter (0 < ·)
  let limit := page.limit.filter (0 < ·)
  match limit, offset with
  | none, some offset => ⟨some pageSize, some offset⟩
  | limit, offset => ⟨limit, offset⟩

/-- A keyword and a number, if there is a number. -/
def term (keyword : String) : Option UInt64 → String
  | none => ""
  | some n => " " ++ keyword ++ " " ++ Text.ofNat n.toNat

/-- The end of a statement that returns the page. -/
def clause (page : Page) (pageSize : UInt64) : String :=
  let resolved := page.resolve pageSize
  term "LIMIT" resolved.limit ++ term "OFFSET" resolved.offset

end Page
end BoundSql
