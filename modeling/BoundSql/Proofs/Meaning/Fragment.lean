import BoundSql.Proofs.Meaning.Reader

/-! A condition's text is read back with the truth value that the condition has. -/
namespace BoundSql

namespace Operator

/-- The words of an operator's text. -/
def words : Operator → List String
  | notLike => ["NOT", "LIKE"]
  | notIn => ["NOT", "IN"]
  | isNot => ["IS", "NOT"]
  | isNull => ["IS", "NULL"]
  | isNotNull => ["IS", "NOT", "NULL"]
  | op => [op.sql]

theorem ofKeyword?_words (op : Operator) :
    ofKeyword? (" ".intercalate op.words) = some op := by
  cases op <;> rfl

end Operator

namespace Token

/-- Tokens that a word in front of them does not run into. -/
def Loose : List Token → Prop
  | word _ :: _ => False
  | _ => True

theorem ofText_append (a b : String) (later : List Token) :
    ofText (a ++ b) later = ofText a (ofText b later) := by
  rw [ofText, String.toList_append, List.foldr_append]
  rfl

theorem before_loose {c : Char} (h : Name.isFollowing c ∨ c = '.') {later : List Token}
    (loose : Loose later) : before c later = word [c] :: later := by
  have part : (Name.isFollowing c || c == '.') = true := by simpa using h
  unfold before
  rw [if_pos part]
  rcases later with _ | ⟨_ | _ | _ | _, later⟩
  case cons.word => exact loose.elim
  all_goals rfl

theorem before_word {c : Char} (h : Name.isFollowing c ∨ c = '.') (text : List Char)
    (later : List Token) : before c (word text :: later) = word (c :: text) :: later := by
  have part : (Name.isFollowing c || c == '.') = true := by simpa using h
  unfold before
  rw [if_pos part]

theorem foldr_word {cs : List Char} (h : ∀ c ∈ cs, Name.isFollowing c ∨ c = '.')
    {later : List Token} (loose : Loose later) (present : cs ≠ []) :
    cs.foldr before later = word cs :: later := by
  -- The text is taken from its end, so the last character alone meets the later tokens.
  induction cs with
  | nil => exact absurd rfl present
  | cons c rest ih =>
      obtain ⟨hc, hrest⟩ := List.forall_mem_cons.mp h
      rw [List.foldr_cons]
      by_cases last : rest = []
      · rw [last, List.foldr_nil, before_loose hc loose]
      · rw [ih hrest last, before_word hc]

theorem ofText_column {column : String} (h : Name.isColumn column.toList) {later : List Token}
    (loose : Loose later) : ofText column later = word column.toList :: later :=
  foldr_word (Name.characters_of_isColumn h) loose (Name.ne_nil_of_isColumn h)

/-- Texts after one another, each with a separator before it. -/
def ofTexts (separator : String) (texts : List String) (later : List Token) : List Token :=
  texts.foldr (fun text tokens => ofText separator (ofText text tokens)) later

theorem ofText_intercalate (separator text : String) (texts : List String) (later : List Token) :
    ofText (separator.intercalate (text :: texts)) later =
      ofText text (ofTexts separator texts later) := by
  induction texts generalizing text with
  | nil => rw [String.intercalate_singleton]; rfl
  | cons next texts ih =>
      rw [String.intercalate_cons_cons, ofText_append, ofText_append, ih]
      rfl

end Token

namespace Reader
open Token

namespace State

theorem run_cons (s : State) (token : Token) (tokens : List Token) :
    s.run (token :: tokens) = (s.step token).bind fun next => next.run tokens := rfl

theorem run_column {column : String} (h : Name.isColumn column.toList) (frame : Frame)
    (outer : List Frame) (args : List Value) (tokens : List Token) :
    run ⟨.operand, frame, outer, args⟩ (ofText column (.gap :: tokens)) =
      run ⟨.operator column [], frame, outer, args⟩ tokens := by
  have taken : step ⟨.operand, frame, outer, args⟩ (.word column.toList) =
      some ⟨.operator (.ofList column.toList) [], frame, outer, args⟩ := rfl
  rw [String.ofList_toList] at taken
  rw [ofText_column h (show Loose (.gap :: tokens) from trivial), run_cons, taken]
  rfl

theorem run_operator {op : Operator} (h : op.isUnary = false) (column : String) (frame : Frame)
    (outer : List Frame) (args : List Value) (tokens : List Token) :
    run ⟨.operator column [], frame, outer, args⟩ (ofText op.sql (.gap :: tokens)) =
      run ⟨.operator column op.words, frame, outer, args⟩ tokens := by
  cases op
  case isNull | isNotNull => cases h
  all_goals rfl

/-- An operator without an operand is complete at its last word. -/
theorem run_unary {op : Operator} (h : op.isUnary = true) (column : String) (frame : Frame)
    (outer : List Frame) (args : List Value) {tokens : List Token} (loose : Loose tokens) :
    run ⟨.operator column [], frame, outer, args⟩ (ofText op.sql tokens) =
      run ⟨.connective, frame.supply (.atom column op []), outer, args⟩ tokens := by
  have last : ofText "NULL" tokens = .word "NULL".toList :: tokens :=
    ofText_column (show Name.isColumn "NULL".toList = true from rfl) loose
  cases op
  case isNull =>
      rw [show Operator.sql .isNull = "IS " ++ "NULL" from rfl, ofText_append, last]
      rfl
  case isNotNull =>
      rw [show Operator.sql .isNotNull = "IS NOT " ++ "NULL" from rfl, ofText_append, last]
      rfl
  all_goals cases h

theorem step_members {op : Operator} (member : op.isMembership = true) (column : String)
    (frame : Frame) (outer : List Frame) (args : List Value) :
    step ⟨.operator column op.words, frame, outer, args⟩ (.mark '(') =
      some ⟨.member column op [], frame, outer, args⟩ := by
  simp only [step, op.ofKeyword?_words, member, if_true]

theorem step_between (column : String) (frame : Frame) (outer : List Frame) (low : Value)
    (args : List Value) :
    step ⟨.operator column Operator.between.words, frame, outer, low :: args⟩ (.mark '?') =
      some ⟨.conjunct column low, frame, outer, args⟩ := by
  simp only [step, Operator.ofKeyword?_words, if_true, bind]

theorem step_single {op : Operator} (member : op.isMembership = false) (between : op ≠ .between)
    (column : String) (frame : Frame) (outer : List Frame) (value : Value) (args : List Value) :
    step ⟨.operator column op.words, frame, outer, value :: args⟩ (.mark '?') =
      some ⟨.connective, frame.supply (.atom column op [value]), outer, args⟩ := by
  simp only [step, op.ofKeyword?_words, member, between, if_false, Bool.false_eq_true, bind,
    supply]

theorem step_close {frame : Frame} {formula : Formula} (h : frame.formula? = some formula)
    (parent : Frame) (outer : List Frame) (args : List Value) :
    step ⟨.connective, frame, parent :: outer, args⟩ (.mark ')') =
      some ⟨.connective, parent.supply formula, outer, args⟩ := by
  simp only [step, h, supply]

/-- The placeholders of a list take a value each. -/
theorem run_members (column : String) (op : Operator) (frame : Frame) (outer : List Frame)
    (later : List Value) (tokens : List Token) (item : Value) (items values : List Value) :
    run ⟨.member column op values, frame, outer, item :: items ++ later⟩
        (ofText "?" (ofTexts ", " (items.map fun _ => "?") (.mark ')' :: tokens))) =
      run ⟨.connective, frame.supply (.atom column op (values ++ item :: items)), outer, later⟩
        tokens := by
  induction items generalizing item values with
  | nil => rfl
  | cons next items ih =>
      have text : ofText "?" (ofTexts ", " ("?" :: items.map fun _ => "?") (.mark ')' :: tokens)) =
          .mark '?' :: .mark ',' :: .gap ::
            ofText "?" (ofTexts ", " (items.map fun _ => "?") (.mark ')' :: tokens)) := rfl
      rw [List.append_cons values item, ← ih, List.map_cons, text, run_cons]
      rfl

end State

/-- A part that is read as a formula, wherever an operand is due. -/
def Reads (part : Statement) (formula : Formula) : Prop :=
  ∀ frame outer later tokens, Loose tokens →
    State.run ⟨.operand, frame, outer, part.args ++ later⟩ (ofText part.sql tokens) =
      State.run ⟨.connective, frame.supply formula, outer, later⟩ tokens

section Fragment
variable (tokens : List Token)

theorem ofText_fragment (c : Comparison) (op : Operator) :
    ofText (c.fragment op).sql tokens = ofText c.field (.gap ::
      ofText op.sql (ofText (op.operand (fun _ => "?") c.value) tokens)) := by
  rw [Comparison.fragment, ofText_append, ofText_append, ofText_append]
  rfl

theorem ofText_members (item : Value) (items : List Value) :
    ofText (" (" ++ ", ".intercalate ((item :: items).map fun _ => "?") ++ ")") tokens =
      .gap :: .mark '(' :: ofText "?" (ofTexts ", " (items.map fun _ => "?")
        (.mark ')' :: tokens)) := by
  rw [List.map_cons, ofText_append, ofText_append, ofText_intercalate]
  rfl

theorem ofText_bounds :
    ofText (" " ++ "?" ++ " AND " ++ "?") tokens = .gap :: .mark '?' :: .gap ::
      .word "AND".toList :: .gap :: .mark '?' :: tokens := rfl

theorem ofText_single : ofText (" " ++ "?") tokens = .gap :: .mark '?' :: tokens := rfl

theorem ofText_gathered (connective : Option Connective) (first : Statement)
    (rest : List Statement) :
    ofText (Condition.gathered connective (first :: rest)).sql tokens =
      .mark '(' :: ofText first.sql (ofTexts (" " ++ (connective.getD .and).sql ++ " ")
        (rest.map Statement.sql) (.mark ')' :: tokens)) := by
  simp only [Condition.gathered, Statement.sql_append, Statement.sql_raw, Statement.joined,
    List.map_cons, ofText_append "(" _, ofText_append _ ")", ofText_intercalate]
  rfl

end Fragment

theorem args_gathered (connective : Option Connective) (first : Statement)
    (rest : List Statement) :
    (Condition.gathered connective (first :: rest)).args =
      first.args ++ rest.flatMap Statement.args := by
  simp [Condition.gathered, Statement.joined]

/-- A comparison is read as itself, with the values that it binds. -/
theorem reads_fragment {c : Comparison} {op : Operator} (column : Name.isColumn c.field.toList)
    (fits : op.fits c.value) :
    Reads (c.fragment op) (.atom c.field op (op.bound c.value)) := by
  intro frame outer later tokens loose
  have args : (c.fragment op).args = op.bound c.value := rfl
  rw [ofText_fragment, args, State.run_column column]
  obtain ⟨unary, bound, operand⟩ | ⟨member, item, items, bound, operand⟩ |
    ⟨rfl, low, high, bound, operand⟩ | ⟨unary, member, between, bound, operand⟩ :=
    Operator.operand_cases fits
  · rw [bound, operand]
    exact State.run_unary unary c.field frame outer later loose
  · rw [bound, operand, ofText_members,
      State.run_operator (Operator.not_unary_of_membership member), State.run_cons,
      State.step_members member]
    exact State.run_members c.field op frame outer later tokens item items []
  · rw [bound, operand, ofText_bounds, State.run_operator rfl, State.run_cons, List.cons_append,
      State.step_between]
    rfl
  · rw [bound, operand, ofText_single, State.run_operator unary, State.run_cons, List.cons_append,
      State.step_single member between]
    rfl

/-- A frame that holds a formula, to which a connective can add one more operand. Under AND no
alternative may stand before it, which the new operand would not reach. -/
structure Frame.Holds (frame : Frame) (connective : Connective) (formula : Formula) : Prop where
  formula : frame.formula? = some formula
  alone : connective = .and → frame.alternatives = none

end Reader

/-- The formula that a connective makes of two. -/
def Connective.formula : Connective → Formula → Formula → Formula
  | and => .both
  | or => .either

theorem Formula.truth_foldl (assignment : Assignment) (connective : Connective)
    (formulas : List Formula) (first : Formula) :
    (formulas.foldl connective.formula first).truth assignment =
      (formulas.map (Formula.truth assignment)).foldl connective.truth
        (first.truth assignment) := by
  induction formulas generalizing first with
  | nil => rfl
  | cons next formulas ih =>
      rw [List.foldl_cons, ih, List.map_cons, List.foldl_cons]
      cases connective <;> rfl

namespace Reader
open Token

theorem Frame.holds_empty (connective : Connective) (formula : Formula) :
    (Frame.empty.supply formula).Holds connective formula := ⟨rfl, fun _ => rfl⟩

/-- One more operand after a connective. -/
theorem run_operand {frame : Frame} {connective : Connective} {whole formula : Formula}
    {part : Statement} (holds : frame.Holds connective whole) (reads : Reads part formula)
    (outer : List Frame) (later : List Value) {tokens : List Token} (loose : Loose tokens) :
    ∃ next : Frame, next.Holds connective (connective.formula whole formula) ∧
      State.run ⟨.connective, frame, outer, part.args ++ later⟩
        (ofText (" " ++ connective.sql ++ " ") (ofText part.sql tokens)) =
        State.run ⟨.connective, next, outer, later⟩ tokens := by
  obtain ⟨alternatives, conjunction⟩ := frame
  obtain ⟨holds, alone⟩ := holds
  -- AND extends the conjunction, which is the whole frame; OR closes the frame's formula first.
  cases conjunction with
  | none => cases holds
  | some last =>
      cases connective with
      | and =>
          obtain rfl : alternatives = none := alone rfl
          obtain rfl : last = whole := Option.some.inj holds
          refine ⟨⟨none, some (last.both formula)⟩, ⟨rfl, fun _ => rfl⟩, ?_⟩
          exact reads ⟨none, some last⟩ outer later tokens loose
      | or =>
          refine ⟨⟨some whole, some formula⟩, ⟨rfl, fun h => nomatch h⟩, ?_⟩
          rw [← holds]
          exact reads ⟨_, none⟩ outer later tokens loose

theorem loose_operands (connective : Connective) (parts : List Statement) (tokens : List Token) :
    Loose (ofTexts (" " ++ connective.sql ++ " ") (parts.map Statement.sql)
      (.mark ')' :: tokens)) := by
  cases parts <;> cases connective <;> trivial

/-- The operands after the first, up to the parenthesis that closes the group. -/
theorem run_operands {connective : Connective} {parts : List Statement} {formulas : List Formula}
    (reads : List.Forall₂ Reads parts formulas) {frame : Frame} {whole : Formula}
    (holds : frame.Holds connective whole) (parent : Frame) (outer : List Frame)
    (later : List Value) (tokens : List Token) :
    State.run ⟨.connective, frame, parent :: outer, parts.flatMap Statement.args ++ later⟩
        (ofTexts (" " ++ connective.sql ++ " ") (parts.map Statement.sql) (.mark ')' :: tokens)) =
      State.run ⟨.connective, parent.supply (formulas.foldl connective.formula whole), outer,
        later⟩ tokens := by
  induction reads generalizing frame whole with
  | nil =>
      rw [List.map_nil, ofTexts, List.foldr_nil, State.run_cons, State.step_close holds.formula]
      rfl
  | @cons part formula parts formulas first rest ih =>
      obtain ⟨next, grown, run⟩ := run_operand holds first (parent :: outer)
        (parts.flatMap Statement.args ++ later) (loose_operands connective parts tokens)
      rw [List.flatMap_cons, List.append_assoc, List.foldl_cons, ← ih grown, ← run]
      rfl

/-- A group is read as its members under its connective, in parentheses of their own. -/
theorem reads_gathered (connective : Option Connective) {first : Statement}
    {rest : List Statement} {formula : Formula} {formulas : List Formula}
    (head : Reads first formula) (tail : List.Forall₂ Reads rest formulas) :
    Reads (Condition.gathered connective (first :: rest))
      (formulas.foldl (connective.getD .and).formula formula) := by
  intro frame outer later tokens loose
  have opened := head .empty (frame :: outer) (rest.flatMap Statement.args ++ later) _
    (loose_operands (connective.getD .and) rest tokens)
  rw [ofText_gathered, args_gathered, List.append_assoc, State.run_cons]
  exact opened.trans
    (run_operands tail (Frame.holds_empty _ formula) frame outer later tokens)

/-- AND binds tighter than an OR before it. -/
theorem read_or_and {a b c : Statement} {φ ψ χ : Formula} (ha : Reads a φ) (hb : Reads b ψ)
    (hc : Reads c χ) :
    read (a.sql ++ " OR " ++ b.sql ++ " AND " ++ c.sql) (a.args ++ (b.args ++ c.args)) =
      some (.either φ (.both ψ χ)) := by
  have first := ha .empty [] (b.args ++ c.args) (ofText " OR " (ofText b.sql
    (ofText " AND " (ofText c.sql [])))) trivial
  have second := hb ⟨some φ, none⟩ [] c.args (ofText " AND " (ofText c.sql [])) trivial
  have third := hc ⟨some φ, some ψ⟩ [] [] [] trivial
  rw [List.append_nil] at third
  have whole := first.trans (second.trans third)
  simp only [read, ofText_append, whole]
  rfl

/-- AND binds tighter than an OR after it. -/
theorem read_and_or {a b c : Statement} {φ ψ χ : Formula} (ha : Reads a φ) (hb : Reads b ψ)
    (hc : Reads c χ) :
    read (a.sql ++ " AND " ++ b.sql ++ " OR " ++ c.sql) (a.args ++ (b.args ++ c.args)) =
      some (.either (.both φ ψ) χ) := by
  have first := ha .empty [] (b.args ++ c.args) (ofText " AND " (ofText b.sql
    (ofText " OR " (ofText c.sql [])))) trivial
  have second := hb ⟨none, some φ⟩ [] c.args (ofText " OR " (ofText c.sql [])) trivial
  have third := hc ⟨some (.both φ ψ), none⟩ [] [] [] trivial
  rw [List.append_nil] at third
  have whole := first.trans (second.trans third)
  simp only [read, ofText_append, whole]
  rfl

theorem Reads.read {part : Statement} {formula : Formula} (h : Reads part formula) :
    read part.sql part.args = some formula := by
  have whole := h .empty [] [] [] trivial
  rw [List.append_nil] at whole
  rw [Reader.read, whole]
  rfl

/-- A part that is read as a formula with the truth value of a condition. -/
def Faithful (condition : Condition) (part : Statement) : Prop :=
  ∃ formula, Reads part formula ∧
    ∀ assignment, condition.truth assignment = some (formula.truth assignment)

theorem faithful_comparison {c : Comparison} {op : Operator}
    (column : Name.isColumn c.field.toList) (parsed : Operator.parse c.operator = .ok op)
    (fits : op.fits c.value) : Faithful (.comparison c) (c.fragment op) := by
  refine ⟨.atom c.field op (op.bound c.value), reads_fragment column fits, fun assignment => ?_⟩
  rw [Condition.truth, Comparison.truth_of_parse parsed]
  rfl

theorem faithful_members {members : List Condition} {parts : List Statement}
    (h : List.Forall₂ Faithful members parts) :
    ∃ formulas, List.Forall₂ Reads parts formulas ∧
      ∀ assignment, Condition.truthAll assignment members =
        formulas.map (Formula.truth assignment) := by
  induction h with
  | nil => exact ⟨[], .nil, fun _ => rfl⟩
  | cons first _ ih =>
      obtain ⟨formula, reads, truth⟩ := first
      obtain ⟨formulas, rest, later⟩ := ih
      refine ⟨formula :: formulas, .cons reads rest, fun assignment => ?_⟩
      rw [Condition.truthAll, truth, later]
      rfl

theorem faithful_group (connective : Option Connective) {members : List Condition}
    {parts : List Statement} (h : List.Forall₂ Faithful (members.filter Condition.live) parts)
    (present : parts ≠ []) :
    Faithful (.group connective members) (Condition.gathered connective parts) := by
  obtain ⟨formulas, reads, truth⟩ := faithful_members h
  cases reads with
  | nil => exact absurd rfl present
  | cons first rest =>
      refine ⟨_, reads_gathered connective first rest, fun assignment => ?_⟩
      rw [Condition.truth, Condition.truthAll_live, truth, List.map_cons, Formula.truth_foldl]

theorem faithful_compile {condition : Condition} {part : Statement}
    (h : condition.compile = .ok part) (present : part.sql ≠ "") : Faithful condition part :=
  Condition.compile_induct (fun _ _ => faithful_comparison)
    (fun connective _ _ some each => faithful_group connective each some) h present

end Reader

/-- A condition's text, read with its arguments, means what the condition means: however the
comparisons come out, the truth value is the same. -/
theorem Condition.truth_eq_read (condition : Condition) (part : Statement)
    (compiled : condition.compile = .ok part) (present : part.sql ≠ "") :
    ∃ formula, Reader.read part.sql part.args = some formula ∧
      ∀ assignment, condition.truth assignment = some (formula.truth assignment) := by
  obtain ⟨formula, reads, truth⟩ := Reader.faithful_compile compiled present
  refine ⟨formula, ?_, truth⟩
  have whole := reads .empty [] [] [] trivial
  rw [List.append_nil] at whole
  rw [Reader.read, whole]
  rfl

/-- A range beside a conjunction within a disjunction, with a group in it that holds nothing. -/
def Condition.nested : Condition :=
  .any [.group none [.leaf "age" "between" (.list [.integer 1, .integer 9]),
      .leaf "name" "is  not null" .null],
    .any [.all []], .all [.leaf "role" "not in" (.list [.text "a", .text "b"])]]

set_option maxRecDepth 10000 in
theorem Condition.read_nested :
    ∃ part, nested.compile = .ok part ∧
      part.sql = "((age BETWEEN ? AND ? AND name IS NOT NULL) OR (role NOT IN (?, ?)))" ∧
      ∃ formula, Reader.read part.sql part.args = some formula ∧
        ∀ assignment, nested.truth assignment = some (formula.truth assignment) := by
  have compiled : nested.compile = .ok
      ⟨"((age BETWEEN ? AND ? AND name IS NOT NULL) OR (role NOT IN (?, ?)))",
        [.integer 1, .integer 9, .text "a", .text "b"]⟩ := by rfl
  exact ⟨_, compiled, rfl, truth_eq_read nested _ compiled (by decide)⟩

end BoundSql
