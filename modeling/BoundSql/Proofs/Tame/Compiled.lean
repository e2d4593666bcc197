import BoundSql.Proofs.Batch.Insert
import BoundSql.Proofs.Draft
import BoundSql.Proofs.Tame.Text

/-! Compiled texts are tame: names and operators are checked before they are written, values are
never written, and the texts that are taken as they are have to be tame themselves. -/
namespace BoundSql
open Outcome

theorem tame_names {names : List String} (h : ∀ name ∈ names, Name.isIdentifier name.toList) :
    Tame (", ".intercalate names) :=
  .intercalate (by decide) fun name hname => tame_of_isIdentifier (h name hname)

theorem tame_sql (op : Operator) : Tame op.sql := by
  cases op <;> decide

theorem tame_operand {op : Operator} {value : Value} (h : op.fits value) :
    Tame (op.operand (fun _ => "?") value) := by
  obtain ⟨-, -, operand⟩ | ⟨-, item, items, -, operand⟩ | ⟨-, low, high, -, operand⟩ |
    ⟨-, -, -, -, operand⟩ := Operator.operand_cases h
  all_goals rw [operand]
  · decide
  · have list : Tame (", ".intercalate ((item :: items).map fun _ => "?")) :=
      .intercalate (by decide) (List.forall_mem_map.mpr fun _ _ => by decide)
    exact list.bracketed_last (by decide : " (" = " " ++ "(") (by decide)
  · decide
  · decide

namespace Condition

theorem tame_gathered (connective : Option Connective) {parts : List Statement}
    (h : ∀ part ∈ parts, Tame part.sql) : Tame (gathered connective parts).sql := by
  cases parts with
  | nil => exact (by decide : Tame "")
  | cons part rest =>
      have separator : Tame (" " ++ (connective.getD .and).sql ++ " ") := by
        cases connective.getD .and <;> decide
      exact (Tame.intercalate separator (List.forall_mem_map.mpr h)).enclosed

theorem tame_compile {condition : Condition} {part : Statement}
    (h : condition.compile = .ok part) : Tame part.sql := by
  -- The induction is about conditions that compile to some text; no text is tame as it is.
  by_cases empty : part.sql = ""
  · rw [empty]
    decide
  · refine compile_induct (P := fun _ part => Tame part.sql) (fun c op column _ fits => ?_)
      (fun connective members parts _ each => ?_) h empty
    · exact (((tame_of_isColumn column).append (by decide)).append (tame_sql op)).append
        (tame_operand fits)
    · have inside : ∀ (_ : Condition) (part : Statement), Tame part.sql → Tame part.sql :=
        fun _ _ tame => tame
      exact tame_gathered connective (forall_right inside each)

theorem tame_whereClause {filter : Option Condition} {part : Statement}
    (h : whereClause filter = .ok part) : Tame part.sql := by
  obtain ⟨-, rfl⟩ | ⟨condition, fragment, -, compiled, rfl⟩ := whereClause_ok h
  · exact (by decide : Tame "")
  · exact (by decide : Tame " WHERE ").append (tame_compile compiled)

end Condition

theorem tame_aliasText {label : Option String}
    (h : ∀ name ∈ label, Name.isIdentifier name.toList) : Tame (Join.aliasText label) := by
  cases label with
  | none => exact (by decide : Tame "")
  | some name => exact (by decide : Tame " AS ").append (tame_of_isIdentifier (h name rfl))

theorem Join.tame_compile {j : Join} {text : String} (h : j.compile = .ok text)
    (on : ∀ given ∈ j.on, Tame given) : Tame text := by
  obtain ⟨table, label, h⟩ := compile_ok.mp h
  have kind : Tame j.kind.sql := by cases j.kind <;> decide
  have head := ((kind.append (by decide : Tame " JOIN ")).append
    (tame_of_isIdentifier table)).append (tame_aliasText label)
  split at h
  · exact h ▸ head
  · obtain ⟨text, kept, rfl⟩ := h
    exact (head.append (by decide : Tame " ON ")).append (.content on kept)

theorem Page.tame_clause (page : Page) (pageSize : UInt64) : Tame (page.clause pageSize) := by
  have term : ∀ {keyword : String}, Tame keyword → ∀ n, Tame (Page.term keyword n) := by
    intro keyword hk n
    cases n with
    | none => exact (by decide : Tame "")
    | some n =>
        exact (((by decide : Tame " ").append hk).append (by decide)).append (tame_ofNat n.toNat)
  exact (term (by decide) _).append (term (by decide) _)

namespace Query
variable {q : Query} {options : Options} {keyword : String}

theorem tame_textClause (hk : Tame keyword) {text : Option String}
    (h : ∀ given ∈ text, Tame given) : Tame (textClause keyword text) := by
  unfold textClause
  cases kept : Text.content? text with
  | none => exact (by decide : Tame "")
  | some text =>
      exact (((by decide : Tame " ").append hk).append (by decide)).append (.content h kept)

theorem tame_listClause (hk : Tame keyword) {terms : List String}
    (h : ∀ term ∈ terms, Tame term) : Tame (listClause keyword terms) := by
  unfold listClause
  split
  · decide
  · exact (((by decide : Tame " ").append hk).append (by decide)).append
      (.intercalate (by decide) h)

theorem tame_joinTexts {joins : List Join} {text : String} (h : joinTexts joins = .ok text)
    (on : ∀ given ∈ joins.filterMap Join.on, Tame given) : Tame text := by
  induction joins generalizing text with
  | nil =>
      cases h
      decide
  | cons j rest ih =>
      rw [joinTexts] at h
      obtain ⟨first, hfirst, h⟩ := bind_ok.mp h
      obtain ⟨later, hlater, h⟩ := bind_ok.mp h
      cases pure_ok.mp h
      obtain ⟨onFirst, onLater⟩ := Join.forall_on_cons.mp on
      exact ((by decide : Tame " ").append (Join.tame_compile hfirst onFirst)).append
        (ih hlater onLater)

theorem tame_sourceClause {source : Statement} (tame : q.OwnTexts Tame)
    (h : q.sourceClause = .ok source) : Tame source.sql := by
  obtain ⟨table, label, joins, hjoins, filter, hfilter, rfl⟩ := sourceClause_ok.mp h
  exact ((((by decide : Tame " FROM ").append (tame_of_isIdentifier table)).append
    (tame_aliasText label)).append (tame_joinTexts hjoins tame.on)).append
      (Condition.tame_whereClause hfilter)

theorem tame_body {body : Statement} (tame : q.OwnTexts Tame) (h : q.body = .ok body) :
    Tame body.sql := by
  obtain ⟨source, hsource, rfl⟩ := body_ok.mp h
  have head : Tame q.head := by
    unfold Query.head
    refine .append ?_ ?_
    · split <;> decide
    · split
      · decide
      · exact .intercalate (by decide) tame.fields
  have grouping : Tame q.grouping :=
    (tame_listClause (by decide) tame.groupBy).append (tame_textClause (by decide) tame.having)
  exact (head.append (tame_sourceClause tame hsource)).append grouping

theorem tame_preambleOf (tame : q.OwnTexts Tame) {entries : List Statement}
    (h : ∀ entry ∈ entries, Tame entry.sql) :
    Tame (preambleOf q.common q.preamble entries).sql := by
  unfold preambleOf
  split
  · rw [Statement.sql_raw, rawPreamble]
    cases kept : Text.content? q.preamble with
    | none => exact (by decide : Tame "")
    | some text =>
        have keyword : Tame (if beginsWith text then "" else "WITH ") := by split <;> decide
        exact (keyword.append (.content tame.preamble kept)).append (by decide)
  · refine Tame.append ?_ (by decide : Tame " ")
    unfold CommonTable.clauseOf
    split
    · exact (by decide : Tame "")
    · have keyword : ∀ recursive : Bool,
          Tame (if recursive then "WITH RECURSIVE " else "WITH ") := by decide
      exact (keyword _).append (.intercalate (by decide) (List.forall_mem_map.mpr h))

theorem tame_entry {table : CommonTable} {entry : Statement}
    (h : table.compile options = .ok entry) (tame : ∀ text ∈ table.rawTexts, Tame text)
    (body : ∀ inner s, table.body = .query inner → inner.compile options = .ok s →
      (∀ text ∈ inner.rawTexts, Tame text) → Tame s.sql) : Tame entry.sql := by
  obtain ⟨name, columns, inside, recursive⟩ := table
  obtain ⟨hname, hcolumns, part, hpart, rfl⟩ := CommonTable.compile_ok.mp h
  have middle : Tame part.sql := by
    cases inside with
    | query inner => exact body inner part rfl hpart tame
    | raw sql =>
        obtain ⟨text, kept, rfl⟩ := TableBody.compile_raw_ok.mp hpart
        refine .content (fun given hg => ?_) kept
        cases hg
        exact tame sql (List.mem_singleton.mpr rfl)
  have list : Tame (if columns.isEmpty then "" else " (" ++ ", ".intercalate columns ++ ")") := by
    split
    · decide
    · exact (tame_names hcolumns).bracketed_last (by decide : " (" = " " ++ "(") (by decide)
  have front := ((tame_of_isIdentifier hname).append list).append (by decide : Tame " AS ")
  exact middle.bracketed_last (Tame.opened _ (by decide : " AS (" = " AS " ++ "(")) front

theorem tame_entries {tables : List CommonTable} {entries : List Statement}
    (h : List.Forall₂ (fun table entry => table.compile options = .ok entry) tables entries)
    (tame : ∀ table ∈ tables, ∀ text ∈ table.rawTexts, Tame text)
    (body : ∀ table ∈ tables, ∀ inner s, table.body = .query inner →
      inner.compile options = .ok s → (∀ text ∈ inner.rawTexts, Tame text) → Tame s.sql) :
    ∀ entry ∈ entries, Tame entry.sql := by
  induction h with
  | nil => exact List.forall_mem_nil _
  | cons made _ ih =>
      obtain ⟨tameFirst, tameRest⟩ := List.forall_mem_cons.mp tame
      obtain ⟨bodyFirst, bodyRest⟩ := List.forall_mem_cons.mp body
      exact List.forall_mem_cons.mpr ⟨tame_entry made tameFirst bodyFirst, ih tameRest bodyRest⟩

theorem tame_tail (tame : q.OwnTexts Tame) : Tame (q.tail options) :=
  (tame_listClause (by decide) tame.orderBy).append (Page.tame_clause _ _)

theorem tame_compile {s : Statement} (h : q.compile options = .ok s)
    (tame : ∀ text ∈ q.rawTexts, Tame text) : Tame s.sql := by
  induction q using induct generalizing s with
  | step q ih =>
      obtain ⟨own, tables⟩ := ownTexts tame
      obtain ⟨entries, hentries, body, hbody, rfl⟩ := compile_ok.mp h
      have preamble := tame_preambleOf own (tame_entries hentries tables
        fun table ht inner s within => ih table ht inner within)
      exact (preamble.append (tame_body own hbody)).append (tame_tail own)

theorem tame_compileCount {s : Statement} (h : q.compileCount options = .ok s)
    (tame : ∀ text ∈ q.rawTexts, Tame text) : Tame s.sql := by
  obtain ⟨own, tables⟩ := ownTexts tame
  obtain ⟨entries, hentries, h⟩ := compileCount_ok.mp h
  have preamble := tame_preambleOf own (tame_entries hentries tables
    fun table ht inner s within compiled => tame_compile compiled)
  split at h
  · obtain ⟨body, hbody, rfl⟩ := h
    have front := preamble.append (by decide : Tame "SELECT COUNT(*) FROM ")
    have opening : "SELECT COUNT(*) FROM (" = "SELECT COUNT(*) FROM " ++ "(" := by decide
    exact (tame_body own hbody).bracketed (Tame.opened _ opening)
      (by decide : ") AS counted" = ")" ++ " AS counted") front (by decide)
  · obtain ⟨source, hsource, rfl⟩ := h
    exact (preamble.append (by decide : Tame "SELECT COUNT(*)")).append
      (tame_sourceClause own hsource)

end Query

theorem TableSelect.tame_compile {options : Options} {table : String} {t : TableSelect}
    {s : Statement} (h : t.compile options table = .ok s)
    (tame : ∀ text ∈ t.groupBy.toList ++ t.orderBy.toList, Tame text) : Tame s.sql := by
  simp only [List.forall_mem_append, Option.mem_toList] at tame
  obtain ⟨table, filter, hfilter, rfl⟩ := compile_ok.mp h
  have rest := ((Query.tame_textClause (by decide : Tame "GROUP BY") tame.1).append
    (Query.tame_textClause (by decide : Tame "ORDER BY") tame.2)).append
      (Page.tame_clause ⟨t.limit, t.offset⟩ options.pageSize)
  exact (((by decide : Tame "SELECT * FROM ").append (tame_of_isIdentifier table)).append
    (Condition.tame_whereClause hfilter)).append rest

theorem Update.tame_compile {u : Update} {s : Statement} (h : u.compile = .ok s) :
    Tame s.sql := by
  obtain ⟨table, -, columns, filter, hfilter, rfl⟩ := compile_ok.mp h
  have targets : ∀ a ∈ u.assignments, Tame (a.1 ++ " = ?") := fun a ha =>
    (tame_of_isIdentifier (columns a ha)).append (by decide)
  exact ((((by decide : Tame "UPDATE ").append (tame_of_isIdentifier table)).append
    (by decide : Tame " SET ")).append
      (.intercalate (by decide) (List.forall_mem_map.mpr targets))).append
        (Condition.tame_whereClause hfilter)

theorem Deletion.tame_compile {d : Deletion} {s : Statement} (h : d.compile = .ok s) :
    Tame s.sql := by
  obtain ⟨table, filter, hfilter, rfl⟩ := compile_ok.mp h
  exact ((by decide : Tame "DELETE FROM ").append (tame_of_isIdentifier table)).append
    (Condition.tame_whereClause hfilter)

theorem Conflict.tame_compile {c : Conflict} {text : String} (h : c.compile = .ok text) :
    Tame text := by
  cases c with
  | doNothing =>
      cases h
      decide
  | update target columns =>
      obtain ⟨-, htarget, hcolumns, rfl⟩ := compile_update_ok.mp h
      have updates : ∀ column ∈ columns, Tame (column ++ " = excluded." ++ column) :=
        fun column hc => ((tame_of_isIdentifier (hcolumns column hc)).append (by decide)).append
          (tame_of_isIdentifier (hcolumns column hc))
      have changed : Tame (", ".intercalate (columns.map fun c => c ++ " = excluded." ++ c)) :=
        .intercalate (by decide) (List.forall_mem_map.mpr updates)
      have found := (tame_names htarget).bracketed
        (by decide : " ON CONFLICT(" = " ON CONFLICT" ++ "(")
        (by decide : ") DO UPDATE SET " = ")" ++ " DO UPDATE SET ") (by decide) (by decide)
      exact found.append changed

namespace Insert

theorem tame_conflictClause {i : Insert} {text : String} (h : i.conflictClause = .ok text) :
    Tame text := by
  unfold conflictClause at h
  split at h
  · cases h
    decide
  · exact Conflict.tame_compile h

/-- The statement of a batch, whose values are all question marks. -/
theorem tame_batchStatement {a : Aligned} {conflict : String}
    (table : Name.isIdentifier a.table.toList)
    (columns : ∀ name ∈ a.columns, Name.isIdentifier name.toList) (hconflict : Tame conflict)
    (batch : List (List Value)) : Tame (batchStatement a conflict batch).sql := by
  have group : Tame ("(" ++ ", ".intercalate (List.replicate a.columns.length "?") ++ ")") :=
    .enclosed (.intercalate (by decide) (List.forall_mem_replicate.mpr (.inr (by decide))))
  have groups := Tame.intercalate (by decide : Tame ", ")
    (List.forall_mem_replicate.mpr (.inr group) : ∀ text ∈ List.replicate batch.length _, _)
  have front := ((by decide : Tame "INSERT INTO ").append (tame_of_isIdentifier table)).append
    (by decide : Tame " ")
  have head := (tame_names columns).bracketed (Tame.opened _ (by decide : " (" = " " ++ "("))
    (by decide : ") VALUES " = ")" ++ " VALUES ") front (by decide)
  exact (head.append groups).append hconflict

theorem tame_compile {options : Options} {i : Insert} {statements : List Statement}
    (h : i.compile options = .ok statements) : ∀ s ∈ statements, Tame s.sql := by
  obtain ⟨a, rows, conflict, hconflict, rfl⟩ := compile_ok.mp h
  obtain ⟨first, rest, values, -, table, -, columns, -, rfl⟩ := Aligned.ofRows_ok.mp rows
  refine List.forall_mem_map.mpr fun batch _ => ?_
  exact tame_batchStatement table columns (tame_conflictClause hconflict) batch

end Insert

theorem Draft.tame_compile {options : Options} {draft : Draft} {s : Statement}
    (h : draft.compile options = .ok s) (tame : ∀ text ∈ draft.rawTexts, Tame text) :
    Tame s.sql := by
  cases draft with
  | select table t => exact TableSelect.tame_compile h tame
  | query q => exact q.tame_compile h tame
  | count q => exact q.tame_compileCount h tame
  | update u => exact u.tame_compile h
  | delete d => exact d.tame_compile h

/-- No name, operator or value gets out of its place in a statement: where the texts that are
taken as they are stay in theirs, what is compiled is tame, and free of all that would quote, end
or comment. -/
theorem compiled_tame (options : Options) :
    (∀ (draft : Draft) (s : Statement), (∀ text ∈ draft.rawTexts, Tame text) →
      draft.compile options = .ok s →
        Tame s.sql ∧ ∀ c ∈ s.sql.toList, c ∉ Tame.dangerous ∧ c.toNat < 128) ∧
    (∀ (i : Insert) (statements : List Statement), i.compile options = .ok statements →
      ∀ s ∈ statements, Tame s.sql ∧ ∀ c ∈ s.sql.toList, c ∉ Tame.dangerous ∧ c.toNat < 128) := by
  constructor
  · intro draft s tame h
    have compiled := Draft.tame_compile h tame
    exact ⟨compiled, compiled.harmless⟩
  · intro i statements h s hs
    have compiled := Insert.tame_compile h s hs
    exact ⟨compiled, compiled.harmless⟩

/-- A query over a common table that has another one inside, with values that would end the
statement if they were written into it. -/
def Draft.overOrders : Draft :=
  .query
    { source := "recent"
      label := some "r"
      fields := ["r.id", "COUNT(*) AS n"]
      distinct := true
      joins := [{ kind := .left, table := "users", on := some " users.id = r.user_id " }]
      filter := some (.any [.leaf "users.name" "not  like" (.text "'); DROP TABLE users; --"),
        .leaf "r.state" "in" (.list [.text "\"", .text "/*", .null])])
      groupBy := ["r.id"]
      having := some "COUNT(*) > 1"
      orderBy := ["n DESC"]
      common :=
        [{ name := "recent"
           columns := ["id", "user_id", "state"]
           body := .query
            { source := "kept"
              filter := some (.leaf "day" "between" (.list [.text "2024-01-01'", .text ";"]))
              common := [{ name := "kept", body := .raw "SELECT * FROM orders" }] } }] }

/-- Rows whose values would end the statement, and a collision that updates two columns. -/
def Insert.ofUsers : Insert where
  rows := [⟨"users", [("id", .integer 1), ("name", .text "O'Hara"), ("note", .null)]⟩,
    ⟨"users", [("note", .text "); --"), ("id", .integer 2), ("name", .text "\n")]⟩]
  conflict := some (.update ["id"] ["name", "note"])

set_option maxRecDepth 100000 in
theorem tame_overOrders :
    (∃ s, (∀ text ∈ Draft.overOrders.rawTexts, Tame text) ∧
      Draft.overOrders.compile {} = .ok s ∧ Tame s.sql ∧
      s.sql = "WITH recent (id, user_id, state) AS (WITH kept AS (SELECT * FROM orders) " ++
        "SELECT * FROM kept WHERE day BETWEEN ? AND ?) SELECT DISTINCT r.id, COUNT(*) AS n " ++
        "FROM recent AS r LEFT JOIN users ON users.id = r.user_id " ++
        "WHERE (users.name NOT LIKE ? OR r.state IN (?, ?, ?)) GROUP BY r.id " ++
        "HAVING COUNT(*) > 1 ORDER BY n DESC") ∧
    ∃ s, Insert.ofUsers.compile {} = .ok [s] ∧ Tame s.sql ∧
      s.sql = "INSERT INTO users (id, name, note) VALUES (?, ?, ?), (?, ?, ?) " ++
        "ON CONFLICT(id) DO UPDATE SET name = excluded.name, note = excluded.note" := by
  have raw : ∀ text ∈ Draft.overOrders.rawTexts, Tame text := by decide
  have query : Draft.overOrders.compile {} = .ok
      ⟨"WITH recent (id, user_id, state) AS (WITH kept AS (SELECT * FROM orders) " ++
        "SELECT * FROM kept WHERE day BETWEEN ? AND ?) SELECT DISTINCT r.id, COUNT(*) AS n " ++
        "FROM recent AS r LEFT JOIN users ON users.id = r.user_id " ++
        "WHERE (users.name NOT LIKE ? OR r.state IN (?, ?, ?)) GROUP BY r.id " ++
        "HAVING COUNT(*) > 1 ORDER BY n DESC",
      [.text "2024-01-01'", .text ";", .text "'); DROP TABLE users; --", .text "\"",
        .text "/*", .null]⟩ := by rfl
  have rows : Insert.ofUsers.compile {} = .ok
      [⟨"INSERT INTO users (id, name, note) VALUES (?, ?, ?), (?, ?, ?) " ++
        "ON CONFLICT(id) DO UPDATE SET name = excluded.name, note = excluded.note",
      [.integer 1, .text "O'Hara", .null, .integer 2, .text "\n", .text "); --"]⟩] := by rfl
  obtain ⟨drafts, inserts⟩ := compiled_tame {}
  exact ⟨⟨_, raw, query, (drafts _ _ raw query).1, rfl⟩,
    ⟨_, rows, (inserts _ _ rows _ List.mem_cons_self).1, rfl⟩⟩

end BoundSql
