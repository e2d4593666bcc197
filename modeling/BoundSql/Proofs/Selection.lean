import BoundSql.Proofs.Checked.Query
import BoundSql.Query.TableSelect

/-! The plain selection from one table as a query. The two have compilers of their own, which agree
in the statement and in the fault. -/
namespace BoundSql

/-- The terms of a clause that is given as one text: the trimmed text, or none if it is unset or
blank. -/
def Text.terms : Option String → List String
  | none => []
  | some text => if Blank text then [] else [trim text]

theorem Text.content?_terms (text : Option String) : (content? text).toList = terms text := by
  cases text with
  | none => rfl
  | some given =>
      by_cases blank : Blank given
      · have nothing : content? (some given) = none := by
          rw [content?_eq_none]
          rintro _ ⟨⟩
          exact blank
        rw [nothing, terms, if_pos blank]
        rfl
      · have kept : content? (some given) = some (trim given) :=
          content?_eq_some.mpr ⟨⟨given, rfl, rfl⟩, mt trim_eq_empty.mp blank⟩
        rw [kept, terms, if_neg blank]
        rfl

/-- A text as a clause of its own is a list of at most one term. -/
theorem Query.textClause_terms (keyword : String) (text : Option String) :
    textClause keyword text = listClause keyword (Text.terms text) := by
  rw [← Text.content?_terms, textClause]
  cases Text.content? text with
  | none => rfl
  | some kept => simp [listClause]

namespace TableSelect

/-- The query with the filter, the grouping, the order and the page of a selection. -/
def toQuery (table : String) (s : TableSelect) : Query where
  source := table
  filter := s.filter
  groupBy := Text.terms s.groupBy
  orderBy := Text.terms s.orderBy
  limit := s.limit
  offset := s.offset

variable (table : String) (s : TableSelect)

theorem sourceClause_toQuery :
    (s.toQuery table).sourceClause = do
      Name.checkTable table
      let filter ← Condition.whereClause s.filter
      return .raw (" FROM " ++ table) ++ filter := by
  simp [Query.sourceClause, toQuery, Name.checkOptional, Query.joinTexts, Join.aliasText, bind,
    Except.bind]

/-- What surrounds the filter is the same text in both. -/
theorem around_toQuery (options : Options) (filter : Statement) :
    Query.preambleOf [] none [] ++
        (.raw (s.toQuery table).head ++ (.raw (" FROM " ++ table) ++ filter) ++
          .raw (s.toQuery table).grouping) ++ .raw ((s.toQuery table).tail options) =
      .raw ("SELECT * FROM " ++ table) ++ filter ++
        .raw (Query.textClause "GROUP BY" s.groupBy ++ Query.textClause "ORDER BY" s.orderBy ++
          (Page.mk s.limit s.offset).clause options.pageSize) := by
  have before : Query.preambleOf [] none [] = .raw "" := rfl
  have head : (s.toQuery table).head = "SELECT *" := rfl
  have grouping : (s.toQuery table).grouping = Query.textClause "GROUP BY" s.groupBy := by
    have having : Query.textClause "HAVING" none = "" := rfl
    rw [Query.textClause_terms, Query.grouping, toQuery, having, String.append_empty]
  have tail : (s.toQuery table).tail options = Query.textClause "ORDER BY" s.orderBy ++
      (Page.mk s.limit s.offset).clause options.pageSize := by
    rw [Query.textClause_terms]
    rfl
  have opening : "SELECT * FROM " = "SELECT *" ++ " FROM " := rfl
  rw [before, head, grouping, tail, opening]
  simp only [Statement.ext_iff, Statement.sql_append, Statement.args_append, Statement.sql_raw,
    Statement.args_raw, String.append_assoc, String.empty_append, List.nil_append,
    List.append_nil, and_self]

/-- A selection from a table compiles as the query with the same parts, to the same statement or
with the same fault. -/
theorem compile_toQuery (options : Options) :
    s.compile options table = (s.toQuery table).compile options := by
  rw [Query.compile_eq, Query.body, sourceClause_toQuery, compile]
  cases Name.checkTable table with
  | error fault => rfl
  | ok _ =>
      cases Condition.whereClause s.filter with
      | error fault => rfl
      | ok filter => exact congrArg Except.ok (around_toQuery table s options filter).symm

end TableSelect
end BoundSql
