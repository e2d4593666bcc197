import BoundSql.Proofs.Blank
import BoundSql.Proofs.Count.InStep
import BoundSql.Proofs.Statement
import BoundSql.Proofs.Words

/-! What stands before a query for its own WITH text. Without common tables, a query and its count
are what they would be without that text, after an opening that the text alone tells. -/
namespace BoundSql
open Outcome

namespace Query

/-- That a text begins with the keyword WITH, in any case, and one of some characters after it. -/
def HasKeyword (following : List Char) (text : String) : Prop :=
  ∃ word c rest, text.toList = word ++ c :: rest ∧ word.map Char.toUpper = "WITH".toList ∧
    c ∈ following

/-- The white space of SQL other than a space. -/
def lineSpace : List Char := ['\t', '\r', '\n']

/-- What opens a query for a trimmed WITH text: nothing if that is empty, and otherwise the text
and a space, with the keyword in front of a text that lacks it. -/
inductive Opening : String → String → Prop
  | absent : Opening "" ""
  | carried {text : String} (keyword : HasKeyword (' ' :: lineSpace) text) :
      Opening text (text ++ " ")
  | supplied {text : String} (present : text ≠ "")
      (lacks : ¬ HasKeyword (' ' :: lineSpace) text) : Opening text ("WITH " ++ text ++ " ")

/-- Upper case makes a space of nothing else. -/
theorem toUpper_eq_space {c : Char} (h : c.toUpper = ' ') : c = ' ' := by
  obtain same | ⟨least, -, raised⟩ := Text.toUpper_cases c
  · exact same.symm.trans h
  · have code : ' '.toNat = 32 := rfl
    rw [h, code] at raised
    omega

theorem HasKeyword.ne_empty {following : List Char} {text : String}
    (keyword : HasKeyword following text) : text ≠ "" := by
  rintro rfl
  obtain ⟨word, c, rest, parts, -⟩ := keyword
  simp at parts

/-- All spellings of the keyword have one length, so one character follows it. -/
theorem HasKeyword.unique {as bs : List Char} {text : String} (first : HasKeyword as text)
    (second : HasKeyword bs text) : ∃ c ∈ as, c ∈ bs := by
  obtain ⟨word, c, rest, parts, spelled, listed⟩ := first
  obtain ⟨word', c', rest', parts', spelled', listed'⟩ := second
  have lengths : word.length = word'.length := by
    simpa using congrArg List.length (spelled.trans spelled'.symm)
  obtain ⟨-, after⟩ := List.append_inj (parts.symm.trans parts') lengths
  exact ⟨c, listed, (List.cons.inj after).1 ▸ listed'⟩

theorem HasKeyword.mono {as bs : List Char} {text : String} (keyword : HasKeyword as text)
    (sub : as ⊆ bs) : HasKeyword bs text := by
  obtain ⟨word, c, rest, parts, spelled, listed⟩ := keyword
  exact ⟨word, c, rest, parts, spelled, sub listed⟩

theorem hasKeyword_cons {c : Char} {following : List Char} {text : String} :
    HasKeyword (c :: following) text ↔ HasKeyword [c] text ∨ HasKeyword following text := by
  constructor
  · rintro ⟨word, d, rest, parts, spelled, listed⟩
    obtain rfl | later := List.mem_cons.mp listed
    · exact .inl ⟨word, d, rest, parts, spelled, List.mem_singleton_self d⟩
    · exact .inr ⟨word, d, rest, parts, spelled, later⟩
  · rintro (first | later)
    · exact first.mono (List.cons_subset_cons c (List.nil_subset following))
    · exact later.mono (List.subset_cons_self c following)

/-- The keyword is found where a space follows it. -/
theorem beginsWith_iff {text : String} : beginsWith text ↔ HasKeyword [' '] text := by
  have literal : "WITH ".toList.map Char.toUpper = "WITH".toList ++ [' '] := by decide
  rw [beginsWith, Text.sameLetters, beq_iff_eq, String.toList_ofList, literal]
  constructor
  · intro same
    obtain ⟨word, ending, cut, spelled, last⟩ := List.map_eq_append_iff.mp same
    obtain ⟨c, rest, rfl, upper, nothing⟩ := List.map_eq_cons_iff.mp last
    obtain rfl := List.map_eq_nil_iff.mp nothing
    refine ⟨word, c, text.toList.drop 5, ?_, spelled,
      List.mem_singleton.mpr (toUpper_eq_space upper)⟩
    rw [List.append_cons, ← cut, List.take_append_drop]
  · rintro ⟨word, c, rest, parts, spelled, listed⟩
    obtain rfl := List.mem_singleton.mp listed
    have four : word.length = 4 := by
      simpa using congrArg List.length spelled
    rw [parts, List.append_cons, List.take_left' (by simp [four]), List.map_append, spelled]
    rfl

theorem not_hasKeyword_of_beginsWith {text : String} (found : beginsWith text) :
    ¬ HasKeyword lineSpace text := by
  intro keyword
  obtain ⟨c, space, line⟩ := (beginsWith_iff.mp found).unique keyword
  rw [List.mem_singleton.mp space] at line
  revert line
  decide

theorem rawPreamble_eq (text : String) :
    rawPreamble (some text) =
      if Text.trim text = "" then ""
      else (if beginsWith (Text.trim text) then "" else "WITH ") ++ Text.trim text ++ " " := by
  rw [rawPreamble, Text.content?, Option.map_some]
  by_cases blank : Text.trim text = "" <;> simp [blank, Option.filter]

/-- A second keyword is no opening of a text that has one. -/
theorem not_opening_twice {text : String} (keyword : HasKeyword (' ' :: lineSpace) text) :
    ¬ Opening text ("WITH " ++ text ++ " ") := by
  intro opening
  generalize twice : "WITH " ++ text ++ " " = opened at opening
  cases opening with
  | absent => exact keyword.ne_empty rfl
  | carried =>
      have lengths := congrArg String.length twice
      simp at lengths
  | supplied _ lacks => exact lacks keyword

/-- The keyword is not found, and so is there twice, where the white space after it is not a
space. -/
theorem opening_rawPreamble_iff {text : String} :
    Opening (Text.trim text) (rawPreamble (some text)) ↔
      ¬ HasKeyword lineSpace (Text.trim text) := by
  rw [rawPreamble_eq]
  generalize Text.trim text = trimmed
  constructor
  · intro opening keyword
    have missed : ¬ beginsWith trimmed := fun found =>
      not_hasKeyword_of_beginsWith found keyword
    rw [if_neg keyword.ne_empty, if_neg missed] at opening
    exact not_opening_twice (hasKeyword_cons.mpr (.inr keyword)) opening
  · intro ordinary
    by_cases empty : trimmed = ""
    · rw [if_pos empty, empty]
      exact .absent
    rw [if_neg empty]
    by_cases found : beginsWith trimmed
    · rw [if_pos found, String.empty_append]
      exact .carried (hasKeyword_cons.mpr (.inl (beginsWith_iff.mp found)))
    · rw [if_neg found]
      refine .supplied empty fun keyword => ?_
      obtain space | line := hasKeyword_cons.mp keyword
      · exact found (beginsWith_iff.mpr space)
      · exact ordinary line

/-- The query without its WITH text. -/
def unopened (q : Query) : Query := { q with preamble := none }

/-- Nothing but the opening depends on the WITH text. -/
theorem unopened_around {q : Query} (bare : q.common = []) (options : Options)
    (before after : String) :
    (do
      let entries ← q.common.mapM (CommonTable.compile options)
      let source ← q.sourceClause
      return preambleOf q.common q.preamble entries ++ Statement.raw before ++ source ++
        Statement.raw after) =
      Except.map (Statement.raw (rawPreamble q.preamble) ++ ·) (do
        let entries ← q.common.mapM (CommonTable.compile options)
        let source ← q.sourceClause
        return preambleOf q.common none entries ++ Statement.raw before ++ source ++
          Statement.raw after) := by
  rw [bare, List.mapM_nil]
  cases q.sourceClause with
  | error fault => rfl
  | ok source =>
      have nothing : rawPreamble none = "" := rfl
      refine congrArg Except.ok ?_
      simp [preambleOf, nothing, Statement.ext_iff, String.append_assoc]

theorem compile_unopened {q : Query} (bare : q.common = []) (options : Options) :
    q.compile options =
      (q.unopened.compile options).map (.raw (rawPreamble q.preamble) ++ ·) := by
  rw [compile_split, compile_split]
  exact unopened_around bare options q.head (q.grouping ++ q.tail options)

theorem compileCount_unopened {q : Query} (bare : q.common = []) (options : Options) :
    q.compileCount options =
      (q.unopened.compileCount options).map (.raw (rawPreamble q.preamble) ++ ·) := by
  rw [compileCount_split, compileCount_split]
  exact unopened_around bare options q.countEnds.1 q.countEnds.2

/-- That a statement for a query is the one without the WITH text, behind the opening for that
text. -/
def Opened (form : Query → Except Fault Statement) (q : Query) (text : String) (s : Statement) :
    Prop :=
  ∃ opening rest, Opening (Text.trim text) opening ∧ form q.unopened = .ok rest ∧
    s = .raw opening ++ rest

theorem opened_iff {form : Query → Except Fault Statement} {q : Query} {text : String}
    {s : Statement} (given : q.preamble = some text)
    (split : form q = (form q.unopened).map (.raw (rawPreamble q.preamble) ++ ·))
    (compiled : form q = .ok s) :
    q.Opened form text s ↔ ¬ HasKeyword lineSpace (Text.trim text) := by
  rw [split, given, map_ok] at compiled
  obtain ⟨rest, hrest, rfl⟩ := compiled
  rw [← opening_rawPreamble_iff]
  constructor
  · rintro ⟨opening, other, opens, hother, same⟩
    cases hrest.symm.trans hother
    rwa [Statement.raw_append_cancel same]
  · intro opens
    exact ⟨_, rest, opens, hrest, rfl⟩

/-- A WITH text gets the keyword if it lacks it, in a query and in its count, except where the
keyword is there and other white space than a space follows it. -/
theorem opened_unless_missed (options : Options) (q : Query) (text : String)
    (bare : q.common = []) (given : q.preamble = some text) :
    (∀ s, q.compile options = .ok s →
      (q.Opened (compile options) text s ↔ ¬ HasKeyword lineSpace (Text.trim text))) ∧
    ∀ n, q.compileCount options = .ok n →
      (q.Opened (compileCount options) text n ↔ ¬ HasKeyword lineSpace (Text.trim text)) :=
  ⟨fun _ => opened_iff given (compile_unopened bare options),
    fun _ => opened_iff given (compileCount_unopened bare options)⟩

/-- A page of a recursive table. -/
def ofChain : Query where
  source := "chain"
  filter := some (.leaf "depth" "<" (.integer 3))
  limit := some 5
  preamble := some " with recursive chain AS (SELECT 1 AS depth)\n"

set_option maxRecDepth 100000 in
theorem opened_ofChain :
    ∃ s n, ofChain.compile {} = .ok s ∧ ofChain.compileCount {} = .ok n ∧
      s.sql = "with recursive chain AS (SELECT 1 AS depth) " ++
        "SELECT * FROM chain WHERE depth < ? LIMIT 5" ∧
      n.sql = "with recursive chain AS (SELECT 1 AS depth) " ++
        "SELECT COUNT(*) FROM chain WHERE depth < ?" ∧
      ofChain.Opened (compile {}) " with recursive chain AS (SELECT 1 AS depth)\n" s ∧
      ofChain.Opened (compileCount {}) " with recursive chain AS (SELECT 1 AS depth)\n" n := by
  have compiled : ofChain.compile {} = .ok ⟨"with recursive chain AS (SELECT 1 AS depth) " ++
      "SELECT * FROM chain WHERE depth < ? LIMIT 5", [.integer 3]⟩ := by rfl
  have counted : ofChain.compileCount {} = .ok ⟨"with recursive chain AS (SELECT 1 AS depth) " ++
      "SELECT COUNT(*) FROM chain WHERE depth < ?", [.integer 3]⟩ := by rfl
  have found : beginsWith (Text.trim " with recursive chain AS (SELECT 1 AS depth)\n") := by decide
  have ordinary := not_hasKeyword_of_beginsWith found
  obtain ⟨query, count⟩ := opened_unless_missed {} ofChain _ rfl rfl
  exact ⟨_, _, compiled, counted, rfl, rfl, (query _ compiled).mpr ordinary,
    (count _ counted).mpr ordinary⟩

/-- A WITH text over two lines. -/
def ofLines : Query where
  source := "t"
  preamble := some "WITH\nt AS (SELECT 1)"

set_option maxRecDepth 100000 in
/-- The keyword that ends its line is not found. -/
theorem ofLines_doubled :
    ∃ s, ofLines.compile {} = .ok s ∧ s.sql = "WITH WITH\nt AS (SELECT 1) SELECT * FROM t" ∧
      ¬ ofLines.Opened (compile {}) "WITH\nt AS (SELECT 1)" s := by
  have compiled : ofLines.compile {} =
      .ok ⟨"WITH WITH\nt AS (SELECT 1) SELECT * FROM t", []⟩ := by rfl
  have keyword : HasKeyword lineSpace (Text.trim "WITH\nt AS (SELECT 1)") :=
    ⟨"WITH".toList, '\n', "t AS (SELECT 1)".toList, by decide, by decide, by decide⟩
  refine ⟨_, compiled, rfl, ?_⟩
  intro opened
  exact (opened_iff rfl (compile_unopened rfl {}) compiled).mp opened keyword

end Query
end BoundSql
