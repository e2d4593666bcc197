import BoundSql.Proofs.Batch.Insert
import BoundSql.Proofs.Placeholder.Lexeme

/-! Literals in the midst of a text. Whatever value one is for, it closes its quotes and has no
question mark outside them, and so a text has the same placeholders with it as without it. -/
namespace BoundSql
open Outcome Statement

namespace Layout

/-- Without an exponent, a number is digits and at most a point. -/
theorem inert_positional {digits : List Char} (h : ∀ c ∈ digits, Plain c) (exponent : Int) :
    Inert (positionalText "" digits exponent) := by
  have zeros : ∀ n, ∀ c ∈ List.replicate n '0', Plain c := by
    intro n c hc
    rw [List.eq_of_mem_replicate hc]
    exact plain_of_isDigit (by decide)
  have point : Plain '.' := ⟨by decide, by decide⟩
  simp only [positionalText]
  split
  · exact (inert_ofList (List.forall_mem_append.mpr ⟨h, zeros _⟩)).append (by decide)
  · split
    · exact (by decide : Inert "0.").append
        (inert_ofList (List.forall_mem_append.mpr ⟨zeros _, h⟩))
    · refine inert_ofList (List.forall_mem_append.mpr ⟨?_, List.forall_mem_cons.mpr ⟨point, ?_⟩⟩)
      · exact fun c hc => h c (List.mem_of_mem_take hc)
      · exact fun c hc => h c (List.mem_of_mem_drop hc)

theorem inert_render (x : Binary64) : Inert (plain.render x) := by
  unfold render
  split
  · decide
  · split <;> decide
  · have sign : ∀ negative : Bool, Inert (if negative then "-" else "") := by decide
    refine (sign _).append ?_
    unfold magnitude
    split
    · decide
    · exact inert_positional (fun c hc => plain_of_isDigit (Text.isDigit_of_mem c hc)) _

end Layout

namespace Value

/-- A doubled quote leaves the literal and comes back to it. -/
theorem endsInside_quoteChars (cs : List Char) : endsInside true (quoteChars cs) = true := by
  induction cs with
  | nil => rfl
  | cons c cs ih =>
      rw [quoteChars]
      split
      · exact ih
      · rename_i plain
        rw [endsInside, if_neg plain]
        exact ih

theorem placeholders_quoteChars (cs : List Char) : placeholders true (quoteChars cs) = 0 := by
  induction cs with
  | nil => rfl
  | cons c cs ih =>
      rw [quoteChars]
      split
      · exact ih
      · rename_i plain
        rw [placeholders, if_neg plain, if_neg (by simp)]
        exact ih

theorem inert_text (s : String) : Inert (textLiteral s) := by
  have chars : (textLiteral s).toList = ['\''] ++ quoteChars s.toList ++ ['\''] := by
    simp [textLiteral]
  have opened : endsInside false ['\''] = true := rfl
  have uncounted : placeholders false ['\''] = 0 := rfl
  constructor
  · rw [chars, endsInside_append, endsInside_append, opened, endsInside_quoteChars]
    rfl
  · rw [chars, placeholders_append, placeholders_append, endsInside_append, opened, uncounted,
      endsInside_quoteChars, placeholders_quoteChars]
    rfl

mutual

/-- The literal of a value closes its quotes and has no question mark outside them. -/
theorem inert_literal : ∀ v : Value, Inert v.literal
  | .null => by decide
  | .bool true => by decide
  | .bool false => by decide
  | .integer n => by
      rw [literal]
      cases n.toInt with
      | ofNat k => exact inert_ofNat k
      | negSucc k => exact (by decide : Inert "-").append (inert_ofNat (k + 1))
  | .real x => by
      rw [literal, realLiteral]
      split
      · exact Layout.inert_render x
      · decide
  | .text s => inert_text s
  | .list items => by
      have inner := Inert.intercalate (by decide : Inert ", ") (inert_literals items)
      rw [literal]
      exact ((by decide : Inert "(").append inner).append (by decide : Inert ")")

theorem inert_literals : ∀ items : List Value, ∀ text ∈ literals items, Inert text
  | [] => List.forall_mem_nil _
  | v :: rest => List.forall_mem_cons.mpr ⟨inert_literal v, inert_literals rest⟩

end

end Value

theorem Lexeme.closed_iff {cs : List Char} : Closed cs ↔ endsInside false cs = false := by
  rw [Closed, read, ← endsInside_readFrom]
  rfl

namespace Statement

/-- A text that closes its quotes and has no placeholder outside them adds nothing where it stands
outside of others. -/
theorem placeholderCount_inert {a part : String} (closed : Lexeme.Closed a.toList)
    (inert : Inert part) (b : String) :
    (raw (a ++ part ++ b)).placeholderCount = (raw (a ++ b)).placeholderCount := by
  have outside := Lexeme.closed_iff.mp closed
  simp only [placeholderCount, sql_raw, String.toList_append, placeholders_append,
    endsInside_append, outside, inert.1, inert.2, Nat.add_zero]

end Statement

/-- A literal that no quote touches is read for itself. -/
theorem Lexeme.read_spliced {a b : String} (closed : Closed a.toList)
    (before : a.toList.getLast? ≠ some '\'') (after : b.toList.head? ≠ some '\'') (v : Value) :
    read (a ++ v.literal ++ b).toList =
      read a.toList ++ read v.literal.toList ++ read b.toList := by
  have whole : Closed v.literal.toList := closed_iff.mpr v.inert_literal.1
  rw [String.toList_append, String.toList_append, List.append_assoc, List.append_assoc]
  rw [read, readFrom_append none a.toList closed (.inl before), read,
    readFrom_append none v.literal.toList whole (.inr after)]
  rfl

theorem Insert.batchText_inert {a : Aligned} {conflict : String}
    (table : Name.isIdentifier a.table.toList)
    (columns : ∀ name ∈ a.columns, Name.isIdentifier name.toList) (hconflict : Inert conflict)
    (batch : List (List Value)) : Inert (batchText a conflict batch) := by
  have group : ∀ row : List Value,
      Inert ("(" ++ ", ".intercalate (Value.literals row) ++ ")") := fun row =>
    ((by decide : Inert "(").append (Inert.intercalate (by decide : Inert ", ")
      (Value.inert_literals row))).append (by decide : Inert ")")
  have groups := Inert.intercalate (by decide : Inert ", ")
    (List.forall_mem_map.mpr fun row (_ : row ∈ batch) => group row)
  exact ((head_inert table columns).append groups).append hconflict

/-- Values that are written into an insertion leave no placeholder in it. -/
theorem Insert.compileLiteral_inert {options : Options} {i : Insert} {texts : List String}
    (compiled : i.compileLiteral options = .ok texts) : ∀ text ∈ texts, Inert text := by
  simp only [compileLiteral, bind_ok, pure_ok] at compiled
  obtain ⟨a, aligned, conflict, clause, rfl⟩ := compiled
  obtain ⟨first, rest, values, -, table, -, columns, -, rfl⟩ := Aligned.ofRows_ok.mp aligned
  exact List.forall_mem_map.mpr fun batch _ =>
    batchText_inert table columns (conflictClause_inert clause) batch

namespace Statement

/-- The placeholders of a statement are the question marks that SQL reads outside of literals. None
comes from the literal of a value, put behind a text that ends outside literals, where it is read
for itself unless a quote touches it, or written into an insertion. -/
theorem placeholderCount_lexed :
    (∀ s : Statement, (Lexeme.read s.sql.toList).flatMap Lexeme.spelled = s.sql.toList ∧
      s.placeholderCount = (Lexeme.read s.sql.toList).count (.character '?')) ∧
    (∀ (v : Value) (a b : String), Lexeme.Closed a.toList →
      (raw (a ++ v.literal ++ b)).placeholderCount = (raw (a ++ b)).placeholderCount ∧
      (a.toList.getLast? ≠ some '\'' → b.toList.head? ≠ some '\'' →
        Lexeme.read (a ++ v.literal ++ b).toList = Lexeme.read a.toList ++
          Lexeme.read v.literal.toList ++ Lexeme.read b.toList)) ∧
    ∀ (options : Options) (i : Insert) (texts : List String),
      i.compileLiteral options = .ok texts → ∀ text ∈ texts, (raw text).placeholderCount = 0 := by
  refine ⟨fun s => ⟨?_, ?_⟩, fun v a b closed => ⟨?_, ?_⟩, ?_⟩
  · exact Lexeme.spelled_readFrom none s.sql.toList
  · exact Lexeme.placeholders_readFrom none s.sql.toList
  · exact placeholderCount_inert closed v.inert_literal b
  · exact fun before after => Lexeme.read_spliced closed before after v
  · intro options i texts compiled text member
    exact (Insert.compileLiteral_inert compiled text member).2

/-- A row in which quotes seem to end in front of question marks. -/
def notes : Insert where
  rows := [⟨"notes", [("title", .text "'?"), ("tags", .list [.text "it's ?", .null])]⟩]

theorem placeholderCount_notes :
    (raw ("a = ? OR b = " ++ (Value.text "it's ?").literal ++ " OR c = ?")).placeholderCount = 2 ∧
      Lexeme.read ("a = ? OR b = " ++ (Value.text "it's ?").literal ++ " OR c = ?").toList =
        Lexeme.read "a = ? OR b = ".toList ++ [.literal "it's ?".toList] ++
          Lexeme.read " OR c = ?".toList ∧
      notes.compileLiteral {} =
        .ok ["INSERT INTO notes (title, tags) VALUES ('''?', ('it''s ?', NULL))"] ∧
      (raw "INSERT INTO notes (title, tags) VALUES ('''?', ('it''s ?', NULL))").placeholderCount =
        0 := by
  obtain ⟨-, spliced, inlined⟩ := placeholderCount_lexed
  have closed : Lexeme.Closed "a = ? OR b = ".toList := by rfl
  have compiled : notes.compileLiteral {} =
      .ok ["INSERT INTO notes (title, tags) VALUES ('''?', ('it''s ?', NULL))"] := by rfl
  have lexemes : Lexeme.read (Value.text "it's ?").literal.toList = [.literal "it's ?".toList] := by
    rfl
  obtain ⟨same, apart⟩ := spliced (.text "it's ?") "a = ? OR b = " " OR c = ?" closed
  exact ⟨same.trans (by rfl), lexemes ▸ apart (by decide) (by decide), compiled,
    inlined {} notes _ compiled _ List.mem_cons_self⟩

end Statement
end BoundSql
