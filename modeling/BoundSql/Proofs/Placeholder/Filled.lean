import BoundSql.Proofs.Placeholder.Clause

/-! Filling the placeholders of a compiled statement gives the statement written out. -/
namespace BoundSql
open Outcome Statement

namespace Query
variable {q : Query} {options : Options}

theorem inert_listed {terms : List String} (h : ∀ term ∈ terms, Inert term) :
    ∀ text ∈ listed terms, Inert text := by
  cases terms with
  | nil => exact fun _ h => nomatch h
  | cons term rest =>
      rintro _ ⟨⟩
      exact Inert.intercalate (by decide) h

theorem head_eq (q : Query) :
    q.head = spaced (["SELECT"] ++ (if q.distinct then ["DISTINCT"] else []) ++
      [(listed q.fields).getD "*"]) := by
  rw [← String.toList_inj]
  cases distinct : q.distinct <;> cases fields : q.fields <;>
    simp [head, listed, spaced, distinct, fields]

theorem grouping_eq (q : Query) :
    q.grouping = led (keyworded "GROUP BY" (listed q.groupBy) ++
      keyworded "HAVING" (Text.content? q.having)) := by
  rw [grouping, listClause_eq, textClause_eq, led_append]

variable {q : Query} {options : Options}

theorem tail_eq (q : Query) : q.tail options = led (q.tailPhrases options) := by
  rw [tail, listClause_eq, clause_eq, tailPhrases, led_append]

theorem inert_tail (orderBy : ∀ term ∈ q.orderBy, Inert term) : Inert (q.tail options) := by
  rw [tail_eq]
  refine inert_led (List.forall_mem_append.mpr ⟨?_, q.page.inert_phrases options.pageSize⟩)
  exact inert_keyworded (by decide) (inert_listed orderBy)

theorem body_renders {body : Statement} (inert : q.OwnTexts Inert) (h : q.body = .ok body) :
    body.Renders (spaced q.bodyPhrases) := by
  obtain ⟨source, hsource, rfl⟩ := body_ok.mp h
  have heads : ∀ phrase ∈ ["SELECT"] ++ (if q.distinct then ["DISTINCT"] else []) ++
      [(listed q.fields).getD "*"], Inert phrase := by
    refine List.forall_mem_append.mpr ⟨List.forall_mem_append.mpr ⟨?_, ?_⟩, ?_⟩
    · exact List.forall_mem_singleton.mpr (by decide)
    · split
      · exact List.forall_mem_singleton.mpr (by decide)
      · exact List.forall_mem_nil _
    · refine List.forall_mem_singleton.mpr ?_
      have terms := inert_listed inert.fields
      cases joined : listed q.fields with
      | none => decide
      | some text => exact terms text joined
  have groups : ∀ phrase ∈ keyworded "GROUP BY" (listed q.groupBy) ++
      keyworded "HAVING" (Text.content? q.having), Inert phrase :=
    List.forall_mem_append.mpr ⟨inert_keyworded (by decide) (inert_listed inert.groupBy),
      inert_keyworded (by decide) fun kept hk => Inert.content inert.having hk⟩
  have whole : spaced q.bodyPhrases = q.head ++ led q.sourcePhrases ++ q.grouping := by
    rw [head_eq, grouping_eq, bodyPhrases, List.append_assoc, spaced_led (by simp),
      spaced_led (by simp)]
  rw [whole]
  refine ((Renders.raw ?_).append (sourceClause_renders hsource inert.on)).append (.raw ?_)
  · rw [head_eq]
    exact inert_spaced heads
  · rw [grouping_eq]
    exact inert_led groups

/-- What stands before a query renders its phrases, a space after each one. -/
theorem preambleOf_renders (inert : q.OwnTexts Inert) {entries : List Statement}
    {texts : List String} (count : entries.length = q.common.length)
    (h : List.Forall₂ Renders entries texts) :
    (preambleOf q.common q.preamble entries).Renders (trailed (q.withPhrases texts)) := by
  unfold preambleOf withPhrases
  cases common : q.common with
  | nil =>
      rw [List.isEmpty_nil, if_pos rfl, rawPreamble]
      cases kept : Text.content? q.preamble with
      | none => exact .raw (by decide)
      | some text =>
          have hk := Inert.content inert.preamble kept
          have spaceAfter := hk.append (by decide : Inert " ")
          by_cases begins : beginsWith text
          · simpa [begins, trailed] using Renders.raw spaceAfter
          · have keyword := Renders.raw ((by decide : Inert "WITH ").append spaceAfter)
            have same : trailed ["WITH", text] = "WITH " ++ (text ++ " ") := by
              rw [← String.toList_inj]
              simp [trailed]
            simpa [begins, same, String.append_assoc] using keyword
  | cons table rest =>
      have more : entries.isEmpty = false := by
        rw [List.isEmpty_eq_false_iff, ← List.length_pos_iff, count, common]
        exact Nat.succ_pos _
      have entries' := Renders.joined (by decide : Inert ", ") h
      have keyword : ∀ recursive : Bool,
          Inert (if recursive then "WITH RECURSIVE " else "WITH ") := by decide
      have clause := ((Renders.raw (keyword ((table :: rest).any (·.recursive)))).append
        entries').append (.raw (by decide : Inert " "))
      have phrases : ∀ recursive : Bool,
          trailed (["WITH"] ++ (if recursive then ["RECURSIVE"] else []) ++
            [", ".intercalate texts]) =
          (if recursive then "WITH RECURSIVE " else "WITH ") ++ ", ".intercalate texts ++ " " := by
        intro recursive
        rw [← String.toList_inj]
        cases recursive <;> simp [trailed]
      rw [List.isEmpty_cons, if_neg (by decide), CommonTable.clauseOf, if_neg (by simp [more]),
        phrases]
      exact clause

theorem entry_renders {table : CommonTable} {entry : Statement}
    (h : table.compile options = .ok entry) (inert : ∀ text ∈ table.rawTexts, Inert text)
    (body : ∀ inner s, table.body = .query inner → inner.compile options = .ok s →
      (∀ text ∈ inner.rawTexts, Inert text) → s.Renders (inner.written options)) :
    entry.Renders (table.written options) := by
  obtain ⟨name, columns, inside, recursive⟩ := table
  obtain ⟨hname, hcolumns, part, hpart, rfl⟩ := CommonTable.compile_ok.mp h
  have middle : part.Renders (inside.written options) := by
    cases inside with
    | query inner => exact body inner part rfl hpart inert
    | raw sql =>
        obtain ⟨text, kept, rfl⟩ := TableBody.compile_raw_ok.mp hpart
        have same : Text.trim sql = text := by
          obtain ⟨⟨given, hg, ht⟩, -⟩ := Text.content?_eq_some.mp kept
          cases hg
          exact ht
        rw [TableBody.written, same]
        refine .raw (Inert.content (fun given hg => ?_) kept)
        cases hg
        exact inert sql (List.mem_singleton.mpr rfl)
  have list : Inert (if columns.isEmpty then "" else " (" ++ ", ".intercalate columns ++ ")") := by
    split
    · decide
    · exact ((by decide : Inert " (").append (Inert.intercalate (by decide) fun column hc =>
        inert_of_isIdentifier (hcolumns column hc))).append (by decide)
  have opening := Renders.raw (((inert_of_isIdentifier hname).append list).append
    (by decide : Inert " AS ("))
  have text : CommonTable.written options ⟨name, columns, inside, recursive⟩ =
      name ++ (if columns.isEmpty then "" else " (" ++ ", ".intercalate columns ++ ")") ++
        " AS (" ++ inside.written options ++ ")" := by
    rw [CommonTable.written, ← String.toList_inj]
    cases columns <;> simp [spaced]
  rw [text]
  exact (opening.append middle).append (.raw (by decide))

theorem entries_render {tables : List CommonTable} {entries : List Statement}
    (h : List.Forall₂ (fun table entry => table.compile options = .ok entry) tables entries)
    (inert : ∀ table ∈ tables, ∀ text ∈ table.rawTexts, Inert text)
    (bodies : ∀ table ∈ tables, ∀ inner s, table.body = .query inner →
      inner.compile options = .ok s → (∀ text ∈ inner.rawTexts, Inert text) →
      s.Renders (inner.written options)) :
    List.Forall₂ Renders entries (tables.map (CommonTable.written options)) := by
  rw [List.forall₂_map_right_iff]
  refine List.Forall₂.flip (((List.forall₂_and_left _ _).mpr ⟨fun table ht => ht, h⟩).imp
    fun table entry ht => ?_)
  exact entry_renders ht.2 (inert table ht.1) (bodies table ht.1)

theorem compile_renders {s : Statement} (h : q.compile options = .ok s)
    (inert : ∀ text ∈ q.rawTexts, Inert text) : s.Renders (q.written options) := by
  induction q using induct generalizing s with
  | step q ih =>
      obtain ⟨own, tables⟩ := ownTexts inert
      obtain ⟨entries, hentries, body, hbody, rfl⟩ := compile_ok.mp h
      have each := entries_render hentries tables fun table ht inner _ hb hs =>
        ih table ht inner hb hs
      have start := preambleOf_renders own (List.Forall₂.length_eq hentries).symm each
      have whole : q.written options =
          trailed (q.withPhrases (q.common.map (CommonTable.written options))) ++
            spaced q.bodyPhrases ++ q.tail options := by
        rw [written_eq, tail_eq, List.append_assoc, trailed_spaced _ (by simp [bodyPhrases]),
          spaced_led (by simp [bodyPhrases]), String.append_assoc]
      rw [whole]
      exact (start.append (body_renders own hbody)).append (.raw (inert_tail own.orderBy))

theorem compileCount_renders {s : Statement} (h : q.compileCount options = .ok s)
    (inert : ∀ text ∈ q.rawTexts, Inert text) : s.Renders (q.writtenCount options) := by
  obtain ⟨own, tables⟩ := ownTexts inert
  obtain ⟨entries, hentries, h⟩ := compileCount_ok.mp h
  have start := preambleOf_renders own (List.Forall₂.length_eq hentries).symm
    (entries_render hentries tables fun _ _ _ _ _ hs => compile_renders hs)
  unfold writtenCount
  split at h
  · rename_i grouped
    obtain ⟨body, hbody, rfl⟩ := h
    rw [if_pos grouped]
    have text : ∀ before after : String,
        before ++ spaced (["SELECT", "COUNT(*)"] ++
            ["FROM", "(" ++ after ++ ")", "AS", "counted"]) =
          before ++ "SELECT COUNT(*) FROM (" ++ after ++ ") AS counted" := by
      intro before after
      rw [← String.toList_inj]
      simp [spaced]
    rw [List.append_assoc, trailed_spaced _ (by simp), text]
    exact ((start.append (.raw (by decide))).append (body_renders own hbody)).append
      (.raw (by decide))
  · rename_i plain
    obtain ⟨source, hsource, rfl⟩ := h
    rw [if_neg plain, List.append_assoc, trailed_spaced _ (by simp), spaced_led (by simp),
      ← String.append_assoc]
    exact (start.append (.raw (by decide))).append (sourceClause_renders hsource own.on)

end Query

theorem TableSelect.compile_renders {options : Options} {table : String} {s : TableSelect}
    {whole : Statement} (h : s.compile options table = .ok whole)
    (inert : ∀ text ∈ s.groupBy.toList ++ s.orderBy.toList, Inert text) :
    whole.Renders (s.written options table) := by
  obtain ⟨htable, filter, hfilter, rfl⟩ := compile_ok.mp h
  simp only [List.forall_mem_append, Option.mem_toList] at inert
  obtain ⟨groupBy, orderBy⟩ := inert
  have head := (by decide : Inert "SELECT * FROM ").append (inert_of_isIdentifier htable)
  have after : ∀ phrase ∈ keyworded "GROUP BY" (Text.content? s.groupBy) ++
      keyworded "ORDER BY" (Text.content? s.orderBy) ++
      (Page.mk s.limit s.offset).phrases options.pageSize, Inert phrase :=
    List.forall_mem_append.mpr ⟨List.forall_mem_append.mpr
      ⟨inert_keyworded (by decide) fun kept hk => Inert.content groupBy hk,
        inert_keyworded (by decide) fun kept hk => Inert.content orderBy hk⟩,
      Page.inert_phrases _ _⟩
  have text : s.written options table =
      "SELECT * FROM " ++ table ++ led (Condition.wherePhrases s.filter) ++
        (Query.textClause "GROUP BY" s.groupBy ++ Query.textClause "ORDER BY" s.orderBy ++
          (Page.mk s.limit s.offset).clause options.pageSize) := by
    rw [textClause_eq, textClause_eq, clause_eq, ← String.toList_inj]
    simp [written, spaced_cons, led, led_append]
  rw [text]
  refine ((Renders.raw head).append (Condition.whereClause_renders hfilter)).append (.raw ?_)
  rw [textClause_eq, textClause_eq, clause_eq, ← led_append, ← led_append]
  exact inert_led after

theorem Update.compile_renders {u : Update} {s : Statement} (h : u.compile = .ok s) :
    s.Renders u.written := by
  obtain ⟨htable, -, columns, filter, hfilter, rfl⟩ := compile_ok.mp h
  have each : List.Forall₂ Renders (u.assignments.map fun a => ⟨a.1 ++ " = " ++ "?", [a.2]⟩)
      (u.assignments.map fun a => a.1 ++ " = " ++ a.2.literal) := by
    rw [List.forall₂_map_left_iff, List.forall₂_map_right_iff, List.forall₂_same]
    intro a ha
    exact (Renders.raw ((inert_of_isIdentifier (columns a ha)).append
      (by decide : Inert " = "))).append (.placeholder a.2)
  have targets := Renders.joined (by decide : Inert ", ") each
  have head := Renders.raw (((by decide : Inert "UPDATE ").append
    (inert_of_isIdentifier htable)).append (by decide : Inert " SET "))
  have part : raw ("UPDATE " ++ u.table ++ " SET ") ++
      joined ", " (u.assignments.map fun a => ⟨a.1 ++ " = " ++ "?", [a.2]⟩) =
      ⟨"UPDATE " ++ u.table ++ " SET " ++
        ", ".intercalate (u.assignments.map fun a => a.1 ++ " = ?"),
        u.assignments.map (·.2)⟩ := by
    rw [joined_singles]
    simp [ext_iff, String.append_assoc]
  have text : u.written = "UPDATE " ++ u.table ++ " SET " ++
      ", ".intercalate (u.assignments.map fun a => a.1 ++ " = " ++ a.2.literal) ++
      led (Condition.wherePhrases u.filter) := by
    rw [written, spaced_led (by simp), ← String.toList_inj]
    simp [spaced]
  rw [← part, text]
  exact (head.append targets).append (Condition.whereClause_renders hfilter)

theorem Deletion.compile_renders {d : Deletion} {s : Statement} (h : d.compile = .ok s) :
    s.Renders d.written := by
  obtain ⟨htable, filter, hfilter, rfl⟩ := compile_ok.mp h
  have text : d.written = "DELETE FROM " ++ d.table ++ led (Condition.wherePhrases d.filter) := by
    rw [written, spaced_led (by simp), ← String.toList_inj]
    simp [spaced]
  rw [text]
  exact (Renders.raw ((by decide : Inert "DELETE FROM ").append
    (inert_of_isIdentifier htable))).append (Condition.whereClause_renders hfilter)

theorem Draft.compile_renders {options : Options} {draft : Draft} {s : Statement}
    (h : draft.compile options = .ok s) (inert : ∀ text ∈ draft.rawTexts, Inert text) :
    s.Renders (draft.written options) := by
  cases draft with
  | select table selection => exact TableSelect.compile_renders h inert
  | query q => exact Query.compile_renders h inert
  | count q => exact Query.compileCount_renders h inert
  | update u => exact Update.compile_renders h
  | delete d => exact Deletion.compile_renders h

/-- Placeholders and arguments line up: there are as many of one as of the other, and writing each
argument at its placeholder gives the statement written out in full. -/
theorem Draft.filled_eq_written (options : Options) (draft : Draft) (s : Statement)
    (inert : ∀ text ∈ draft.rawTexts, Inert text) (h : draft.compile options = .ok s) :
    s.placeholderCount = s.args.length ∧ s.filled = draft.written options := by
  have renders := Draft.compile_renders h inert
  exact ⟨renders.count, renders.filled⟩

/-- A query over a common table, with question marks and quotes in its values and in a text that is
taken as it is. -/
def Draft.overNamed : Draft :=
  .query
    { source := "named"
      filter := some (.leaf "named.name" "not  like" (.text "?'"))
      limit := some 5
      common :=
        [{ name := "named"
           body := .query
            { source := "users"
              fields := ["name", "'?'"]
              filter := some (.any [.leaf "role" "in" (.list [.text "a?", .null]), .all [],
                .leaf "age" "between" (.list [.integer 1, .bool true])]) } }] }

set_option maxRecDepth 100000 in
theorem Draft.filled_overNamed :
    ∃ s, (∀ text ∈ overNamed.rawTexts, Inert text) ∧ overNamed.compile {} = .ok s ∧
      s.sql = "WITH named AS (SELECT name, '?' FROM users WHERE (role IN (?, ?) OR " ++
        "age BETWEEN ? AND ?)) SELECT * FROM named WHERE named.name NOT LIKE ? LIMIT 5" ∧
      s.placeholderCount = s.args.length ∧
      s.filled = "WITH named AS (SELECT name, '?' FROM users WHERE (role IN ('a?', NULL) OR " ++
        "age BETWEEN 1 AND TRUE)) SELECT * FROM named WHERE named.name NOT LIKE '?''' " ++
        "LIMIT 5" := by
  have inert : ∀ text ∈ overNamed.rawTexts, Inert text := by decide
  have compiled : overNamed.compile {} = .ok
      ⟨"WITH named AS (SELECT name, '?' FROM users WHERE (role IN (?, ?) OR " ++
        "age BETWEEN ? AND ?)) SELECT * FROM named WHERE named.name NOT LIKE ? LIMIT 5",
        [.text "a?", .null, .integer 1, .bool true, .text "?'"]⟩ := by rfl
  have both := Draft.filled_eq_written {} overNamed _ inert compiled
  exact ⟨_, inert, compiled, rfl, both.1, both.2.trans (by rfl)⟩

end BoundSql
