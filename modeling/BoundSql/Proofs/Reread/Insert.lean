import BoundSql.Proofs.Reread.Literal

/-! Insertions with their values in them are read back: statement by statement the table and the
columns, and over all statements the values of every row. -/
namespace BoundSql
open Outcome

namespace Literal

section Head

variable {rest : List Char}

theorem cut_spaced {cs : List Char} (present : cs ≠ [])
    (following : ∀ c ∈ cs, Name.isFollowing c) : Cut (cs ++ [' ']) rest [.word cs] :=
  (cut_word present following (apart_cons (by decide) rest)).append cut_blank

/-- The tokens of names, up to the parenthesis that closes them. -/
def nameTokens : List String → List Token
  | [] => [.mark ')']
  | [name] => [.word name.toList, .mark ')']
  | name :: rest => .word name.toList :: .mark ',' :: nameTokens rest

theorem cut_names {names : List String} (present : names ≠ [])
    (identifiers : ∀ name ∈ names, Name.isIdentifier name.toList) :
    Cut ((", ".intercalate names).toList ++ [')']) rest (nameTokens names) := by
  have cutName : ∀ {name : String}, Name.isIdentifier name.toList → ∀ {more}, Apart more →
      Cut name.toList more [.word name.toList] := fun h _ apart =>
    cut_word (Name.ne_nil_of_isIdentifier h) (Name.following_of_isIdentifier h) apart
  induction names with
  | nil => exact absurd rfl present
  | cons name names ih =>
      obtain ⟨first, later⟩ := List.forall_mem_cons.mp identifiers
      cases names with
      | nil =>
          rw [String.intercalate_singleton]
          exact (cutName first (apart_cons (c := ')') (by decide) rest)).append
            (cut_mark (by decide))
      | cons next more =>
          have chars : (", ".intercalate (name :: next :: more)).toList ++ [')'] =
              name.toList ++ ([','] ++ ([' '] ++
                ((", ".intercalate (next :: more)).toList ++ [')']))) := by
            simp [String.intercalate_cons_cons]
          rw [chars]
          exact (cutName first (apart_cons (c := ',') (by decide) _)).append
            ((cut_mark (by decide)).append
              (cut_blank.append (ih (List.cons_ne_nil next more) later)))

theorem names?_nameTokens {names : List String} (present : names ≠ [])
    (identifiers : ∀ name ∈ names, Name.isIdentifier name.toList) (tokens : List Token) :
    names? (nameTokens names ++ tokens) = some (names, tokens) := by
  induction names with
  | nil => exact absurd rfl present
  | cons name names ih =>
      obtain ⟨first, later⟩ := List.forall_mem_cons.mp identifiers
      cases names with
      | nil => simp [nameTokens, names?, first]
      | cons next more =>
          simp [nameTokens, names?, first, ih (List.cons_ne_nil next more) later]

/-- The tokens of an INSERT statement up to its rows. -/
def headTokens (table : String) (columns : List String) : List Token :=
  [.word "INSERT".toList, .word "INTO".toList, .word table.toList, .mark '('] ++
    (nameTokens columns ++ [.word "VALUES".toList])

variable {a : Aligned} (table : Name.isIdentifier a.table.toList) (present : a.columns ≠ [])
  (columns : ∀ name ∈ a.columns, Name.isIdentifier name.toList)

include table present columns

theorem cut_head : Cut (Insert.head a).toList rest (headTokens a.table a.columns) := by
  have chars : (Insert.head a).toList = ("INSERT".toList ++ [' ']) ++ (("INTO".toList ++ [' ']) ++
      ((a.table.toList ++ [' ']) ++ (['('] ++ (((", ".intercalate a.columns).toList ++ [')']) ++
        ([' '] ++ ("VALUES".toList ++ [' '])))))) := by
    rw [Insert.head, String.toList_append, String.toList_append, String.toList_append,
      String.toList_append]
    simp only [List.append_assoc]
    rfl
  rw [chars]
  have cutTable : ∀ more, Cut (a.table.toList ++ [' ']) more [.word a.table.toList] := fun _ =>
    cut_spaced (Name.ne_nil_of_isIdentifier table) (Name.following_of_isIdentifier table)
  have cutKeyword : ∀ keyword : String, keyword.toList ≠ [] →
      keyword.toList.all Name.isFollowing = true → ∀ more,
        Cut (keyword.toList ++ [' ']) more [.word keyword.toList] :=
    fun _ present letters _ => cut_spaced present (List.all_eq_true.mp letters)
  exact (cutKeyword "INSERT" (by decide) (by decide) _).append
    ((cutKeyword "INTO" (by decide) (by decide) _).append
      ((cutTable _).append ((cut_mark (by decide)).append ((cut_names present columns).append
        (cut_blank.append (cutKeyword "VALUES" (by decide) (by decide) _))))))

theorem insert?_head (tokens : List Token) :
    insert? (headTokens a.table a.columns ++ tokens) =
      (rows? tokens).map fun rows => ⟨a.table, a.columns, rows⟩ := by
  have keywords : isKeyword "INSERT" "INSERT".toList && isKeyword "INTO" "INTO".toList &&
      Name.isIdentifier a.table.toList := by
    rw [table]
    decide
  have values : isKeyword "VALUES" "VALUES".toList := by decide
  have parted : headTokens a.table a.columns ++ tokens =
      .word "INSERT".toList :: .word "INTO".toList :: .word a.table.toList :: .mark '(' ::
        (nameTokens a.columns ++ .word "VALUES".toList :: tokens) := by
    simp only [headTokens, List.append_assoc, List.cons_append, List.nil_append]
  rw [parted, insert?, if_pos keywords, names?_nameTokens present columns]
  dsimp only
  rw [if_pos values, String.ofList_toList]

end Head

/-- Rows are read as lists with commas between them. -/
theorem rows?_literals {batch : List (List Value)} (filled : batch ≠ [])
    (free : ∀ row ∈ batch, Value.realFreeAll row) :
    (tokensFrom .between
      (", ".intercalate (batch.map fun row => (Value.list row).literal)).toList).bind rows? =
        some batch := by
  cases batch with
  | nil => exact absurd rfl filled
  | cons row batch =>
      have each : ∀ item ∈ Value.list row :: batch.map Value.list, Reads item := by
        rw [← List.map_cons, List.forall_mem_map]
        exact fun row hrow => reads_literal (.list row) (free row hrow)
      have read := readFrom_items (s := ⟨.value, [], []⟩) each rfl apart_nil
      have lists : (Value.list row :: batch.map Value.list).map Value.literal =
          (row :: batch).map fun row => (Value.list row).literal := by
        rw [← List.map_cons, List.map_map]
        rfl
      rw [lists, List.append_nil, readFrom, readFrom] at read
      have last : (tokensFrom .between []).bind
          (State.run ⟨.separator, [] ++ Value.list row :: batch.map Value.list, []⟩) =
          some ⟨.separator, (row :: batch).map Value.list, []⟩ := rfl
      obtain ⟨ts, cut, run⟩ := Option.bind_eq_some_iff.mp (read.trans last)
      have rows : ((row :: batch).map Value.list).mapM items? = some (row :: batch) := by
        rw [Shape.mapM_some, List.forall₂_map_left_iff, List.forall₂_same]
        exact fun _ _ => rfl
      rw [cut, Option.bind_some, rows?, run]
      exact rows

/-- The text of a batch is read to its end, as the rows of the batch. -/
theorem read?_batchText {a : Aligned} (table : Name.isIdentifier a.table.toList)
    (present : a.columns ≠ []) (columns : ∀ name ∈ a.columns, Name.isIdentifier name.toList)
    {batch : List (List Value)} (filled : batch ≠ [])
    (free : ∀ row ∈ batch, Value.realFreeAll row) :
    read? (Insert.batchText a "" batch) = some ⟨a.table, a.columns, batch⟩ := by
  have chars : (Insert.batchText a "" batch).toList = (Insert.head a).toList ++
      (", ".intercalate (batch.map fun row => (Value.list row).literal)).toList := by
    rw [Insert.batchText, String.append_empty, String.toList_append]
    rfl
  rw [read?, chars, cut_head table present columns]
  obtain ⟨ts, cut, rows⟩ := Option.bind_eq_some_iff.mp (rows?_literals filled free)
  rw [cut, Option.map_some, Option.bind_some, insert?_head table present columns, rows]
  rfl

end Literal

namespace Insert

theorem compileLiteral_ok {options : Options} {i : Insert} {texts : List String} :
    i.compileLiteral options = .ok texts ↔ ∃ a, Aligned.ofRows i.rows = .ok a ∧
      ∃ conflict, i.conflictClause = .ok conflict ∧
        (chunks (i.batchSize options) a.values).map (batchText a conflict) = texts := by
  simp only [compileLiteral, bind_ok, pure_ok]

theorem realFree_of_fits {first r : Row} {values : List Value}
    (free : ∀ field ∈ r.fields, field.2.isRealFree) (h : Row.Fits first r values) :
    Value.realFreeAll values :=
  Value.realFreeAll_iff.mpr (forall_right (fun column v held => free (column, v) held) h.held)

/-- What is read from the texts of an insertion, one after the other, is the table and the columns
of its first row, and for every row the values that it holds under these columns. -/
theorem compileLiteral_reread (options : Options) (i : Insert) (texts : List String)
    (free : ∀ r ∈ i.rows, ∀ field ∈ r.fields, field.2.isRealFree) (bare : i.conflict = none)
    (compiled : i.compileLiteral options = .ok texts) :
    ∃ first rest reads, i.rows = first :: rest ∧ texts.mapM Literal.read? = some reads ∧
      (∀ a ∈ reads, a.table = first.table ∧ a.columns = first.columns) ∧
      List.Forall₂ (Row.Fits first) i.rows (reads.flatMap Aligned.values) := by
  obtain ⟨a, aligned, conflict, clause, rfl⟩ := compileLiteral_ok.mp compiled
  obtain ⟨first, rest, values, rows, table, present, columns, fits, rfl⟩ :=
    Aligned.ofRows_ok.mp aligned
  have plain : conflict = "" := by
    rw [conflictClause, bare] at clause
    exact (Except.ok.inj clause).symm
  have positive := i.batchSize_pos options
  have freeRows : ∀ row ∈ values, Value.realFreeAll row :=
    forall_right (fun _ _ h => realFree_of_fits h.1 h.2)
      ((List.forall₂_and_left _ _).mpr ⟨free, fits⟩)
  have named : first.columns ≠ [] := mt List.map_eq_nil_iff.mp present
  refine ⟨first, rest, (chunks (i.batchSize options) values).map fun batch =>
    ⟨first.table, first.columns, batch⟩, rows, ?_, ?_, ?_⟩
  · rw [Shape.mapM_some, List.forall₂_map_left_iff, List.forall₂_map_right_iff, List.forall₂_same,
      plain]
    intro batch member
    have filled := ne_nil_of_mem_chunks positive batch member
    have freeBatch : ∀ row ∈ batch, Value.realFreeAll row := fun row inside =>
      freeRows row (mem_of_mem_chunks positive member row inside)
    exact Literal.read?_batchText table named columns filled freeBatch
  · exact List.forall_mem_map.mpr fun _ _ => ⟨rfl, rfl⟩
  · rw [List.flatMap_map, List.flatMap_id', flatten_chunks positive]
    exact fits

/-- Rows whose texts look like other parts of the statement, in two batches. -/
def deceptive : Insert where
  rows := [⟨"logs", [("NULL", .text "it's '), ('"), ("n", .integer (-9223372036854775808))]⟩,
    ⟨"logs", [("n", .list [.list [], .bool true]), ("NULL", .null)]⟩,
    ⟨"logs", [("NULL", .text "'"), ("n", .list [.text "NULL, ("])]⟩]
  maxRows := some 2

set_option maxRecDepth 10000 in
theorem reread_deceptive :
    ∃ texts reads, deceptive.compileLiteral {} = .ok texts ∧
      (∀ r ∈ deceptive.rows, ∀ field ∈ r.fields, field.2.isRealFree) ∧ deceptive.conflict = none ∧
      texts.mapM Literal.read? = some reads ∧
      ∃ first, List.Forall₂ (Row.Fits first) deceptive.rows (reads.flatMap Aligned.values) := by
  have free : ∀ r ∈ deceptive.rows, ∀ field ∈ r.fields, field.2.isRealFree := by decide
  have compiled : deceptive.compileLiteral {} = .ok
      ["INSERT INTO logs (NULL, n) VALUES ('it''s ''), (''', -9223372036854775808), " ++
          "(NULL, ((), TRUE))",
        "INSERT INTO logs (NULL, n) VALUES ('''', ('NULL, ('))"] := by rfl
  obtain ⟨first, rest, reads, -, read, -, fits⟩ :=
    compileLiteral_reread {} deceptive _ free rfl compiled
  exact ⟨_, reads, compiled, free, rfl, read, first, fits⟩

end Insert
end BoundSql
