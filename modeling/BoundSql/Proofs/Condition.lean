import BoundSql.Condition.Where
import BoundSql.Proofs.Blank
import BoundSql.Proofs.Name
import BoundSql.Proofs.Statement
import BoundSql.Proofs.Words

/-! Conditions taken apart: which comparisons compile and to what, and how the parts of a group
come together. -/
namespace BoundSql
open Outcome

namespace Operator

/-- Whether a value fits an operator. -/
def fits : Operator → Value → Bool
  | .isNull, .null | .isNotNull, .null => true
  | .isNull, _ | .isNotNull, _ => false
  | .isIn, .list [] | .notIn, .list [] => false
  | .between, .list [_, _] => true
  | .between, _ => false
  | _, _ => true

/-- The values that a comparison binds under an operator, in the order of their placeholders. -/
def bound : Operator → Value → List Value
  | .isNull, _ | .isNotNull, _ => []
  | .isIn, .list items | .notIn, .list items | .between, .list items => items
  | _, value => [value]

/-- What follows an operator, with each bound value in a given form. -/
def operand (form : Value → String) : Operator → Value → String
  | .isNull, _ | .isNotNull, _ => ""
  | .isIn, .list items | .notIn, .list items =>
    " (" ++ ", ".intercalate (items.map form) ++ ")"
  | .isIn, value | .notIn, value => " (" ++ form value ++ ")"
  | .between, .list [low, high] => " " ++ form low ++ " AND " ++ form high
  | _, value => " " ++ form value

theorem not_unary_of_membership {op : Operator} (h : op.isMembership = true) :
    op.isUnary = false := by
  revert h
  cases op <;> decide

/-- The four ways in which an operator takes a value that fits it. -/
theorem operand_cases {op : Operator} {value : Value} (fits : op.fits value) :
    (op.isUnary = true ∧ op.bound value = [] ∧ ∀ form, op.operand form value = "") ∨
    (op.isMembership = true ∧ ∃ item items, op.bound value = item :: items ∧
      ∀ form, op.operand form value =
        " (" ++ ", ".intercalate ((item :: items).map form) ++ ")") ∨
    (op = .between ∧ ∃ low high, op.bound value = [low, high] ∧
      ∀ form, op.operand form value = " " ++ form low ++ " AND " ++ form high) ∨
    (op.isUnary = false ∧ op.isMembership = false ∧ op ≠ .between ∧ op.bound value = [value] ∧
      ∀ form, op.operand form value = " " ++ form value) := by
  cases op
  case isNull | isNotNull => exact .inl ⟨rfl, rfl, fun _ => rfl⟩
  case isIn | notIn =>
      refine .inr (.inl ⟨rfl, ?_⟩)
      rcases value with _ | _ | _ | _ | _ | (_ | ⟨item, items⟩)
      case list.nil => cases fits
      case list.cons => exact ⟨item, items, rfl, fun _ => rfl⟩
      all_goals exact ⟨_, [], rfl, fun _ => rfl⟩
  case between =>
      rcases value with _ | _ | _ | _ | _ | (_ | ⟨low, _ | ⟨high, _ | ⟨more, items⟩⟩⟩)
      case list.cons.cons.nil => exact .inr (.inr (.inl ⟨rfl, low, high, rfl, fun _ => rfl⟩))
      all_goals cases fits
  all_goals exact .inr (.inr (.inr ⟨rfl, rfl, by decide, rfl, fun _ => rfl⟩))

theorem parse_ok {text : String} {op : Operator} :
    parse text = .ok op ↔ ofKeyword? (normalized text) = some op := by
  unfold parse
  cases ofKeyword? (normalized text) <;> simp

/-- A text that is refused as an operator is named as it was given. -/
theorem parse_error {text : String} {fault : Fault} (refused : parse text = .error fault) :
    fault = .invalidOperator text := by
  unfold parse at refused
  split at refused
  · cases refused
  · exact (Except.error.inj refused).symm

theorem trim_ne_empty_of_parse {text : String} {op : Operator} (h : parse text = .ok op) :
    Text.trim text ≠ "" := by
  intro blank
  have words := Text.words_blank (Text.blank_of_trim blank)
  have empty : normalized text = "" := by simp [normalized, words]
  rw [parse_ok, empty] at h
  revert h
  cases op <;> decide

end Operator

namespace Comparison

/-- The fragment of a comparison under an operator, with the values that it binds. -/
def fragment (c : Comparison) (op : Operator) : Statement :=
  ⟨c.field ++ " " ++ op.sql ++ op.operand (fun _ => "?") c.value, op.bound c.value⟩

theorem apply_ok {c : Comparison} {op : Operator} {part : Statement} :
    c.apply op = .ok part ↔ op.fits c.value ∧ c.fragment op = part := by
  obtain ⟨field, operator, value⟩ := c
  cases op
  case isNull | isNotNull =>
      cases value <;> simp [apply, Operator.isUnary, Operator.fits, fragment, Operator.bound,
        Operator.operand, Statement.raw]
  case isIn | notIn =>
      rcases value with _ | _ | _ | _ | _ | (_ | ⟨item, items⟩) <;>
        simp [apply, Operator.isUnary, Operator.isMembership, Operator.fits, fragment,
          Operator.bound, Operator.operand, String.append_assoc, List.replicate_succ]
  case between =>
      rcases value with _ | _ | _ | _ | _ | (_ | ⟨low, _ | ⟨high, _ | ⟨more, items⟩⟩⟩) <;>
        simp [apply, Operator.isUnary, Operator.isMembership, Operator.fits, fragment,
          Operator.bound, Operator.operand, Operator.sql, String.append_assoc]
  all_goals
    simp [apply, Operator.isUnary, Operator.isMembership, Operator.fits, fragment,
      Operator.bound, Operator.operand]

/-- A comparison compiles exactly when its field is a column, its operator is known, and its value
fits the operator. -/
theorem compile_ok {c : Comparison} {part : Statement} :
    c.compile = .ok part ↔ Name.isColumn c.field.toList ∧
      ∃ op, Operator.parse c.operator = .ok op ∧ op.fits c.value ∧ c.fragment op = part := by
  simp only [compile, bind_ok, guard_ok, Name.checkColumn_ok, apply_ok, exists_const]
  constructor
  · rintro ⟨-, -, column, rest⟩
    exact ⟨column, rest⟩
  · rintro ⟨column, op, parsed, rest⟩
    refine ⟨?_, Operator.trim_ne_empty_of_parse parsed, column, op, parsed, rest⟩
    intro empty
    rw [empty] at column
    cases column

theorem fragment_ne_empty {c : Comparison} (h : Name.isColumn c.field.toList) (op : Operator) :
    (c.fragment op).sql ≠ "" := by
  intro empty
  have nothing := congrArg String.toList empty
  simp only [fragment, String.toList_append, List.append_assoc] at nothing
  exact Name.ne_nil_of_isColumn h (List.append_eq_nil_iff.mp nothing).1

end Comparison

namespace Condition

/-- Induction on a condition, with the hypothesis for each member of a group. -/
theorem induct {P : Condition → Prop} (comparison : ∀ c, P (.comparison c))
    (group : ∀ connective members, (∀ m ∈ members, P m) → P (.group connective members))
    (condition : Condition) : P condition :=
  @Condition.rec P (fun members => ∀ m ∈ members, P m) comparison group (List.forall_mem_nil P)
    (fun _ _ first rest => List.forall_mem_cons.mpr ⟨first, rest⟩) condition

mutual

/-- The comparisons of a condition from left to right. -/
def comparisons : Condition → List Comparison
  | comparison c => [c]
  | group _ members => comparisonsAll members

def comparisonsAll : List Condition → List Comparison
  | [] => []
  | m :: rest => m.comparisons ++ comparisonsAll rest

end

theorem comparisonsAll_eq (members : List Condition) :
    comparisonsAll members = members.flatMap comparisons := by
  induction members with
  | nil => rfl
  | cons m rest ih => rw [comparisonsAll, ih, List.flatMap_cons]

theorem comparisons_group (connective : Option Connective) (members : List Condition) :
    (group connective members).comparisons = members.flatMap comparisons := by
  rw [comparisons, comparisonsAll_eq]

/-- Whether a condition holds a comparison. -/
def live (condition : Condition) : Bool := !condition.comparisons.isEmpty

theorem live_group (connective : Option Connective) (members : List Condition) :
    (group connective members).live = members.any live := by
  induction members with
  | nil => rfl
  | cons m rest ih =>
      rw [List.any_cons, ← ih]
      simp only [live, comparisons, comparisonsAll]
      cases m.comparisons <;> rfl

/-- What going through a condition leaves: the values bound up to the first fault, or all of
them, and the text or the fault. -/
structure Emission (α : Type) where
  bound : List Value
  outcome : Except Fault α

mutual

/-- What a condition leaves by itself, whatever is bound before it. -/
def emit : Condition → Emission String
  | comparison c =>
    match c.compile with
    | .ok part => ⟨part.args, .ok part.sql⟩
    | .error fault => ⟨[], .error fault⟩
  | group connective members =>
    let inner := emitAll members
    ⟨inner.bound, inner.outcome.map (enclosed connective)⟩

def emitAll : List Condition → Emission (List String)
  | [] => ⟨[], .ok []⟩
  | condition :: rest =>
    let first := condition.emit
    match first.outcome with
    | .error fault => ⟨first.bound, .error fault⟩
    | .ok text =>
      let later := emitAll rest
      ⟨first.bound ++ later.bound, later.outcome.map (text :: ·)⟩

end

theorem compileAllInto_emit {members : List Condition}
    (each : ∀ m ∈ members, ∀ given,
      m.compileInto given = (m.emit.outcome, given ++ m.emit.bound)) (given : List Value) :
    compileAllInto members given =
      ((emitAll members).outcome, given ++ (emitAll members).bound) := by
  induction members generalizing given with
  | nil => exact Prod.ext rfl (List.append_nil given).symm
  | cons m rest ih =>
      obtain ⟨first, later⟩ := List.forall_mem_cons.mp each
      rw [compileAllInto, first given, emitAll]
      cases m.emit.outcome with
      | error fault => rfl
      | ok text =>
          dsimp only
          rw [ih later, List.append_assoc]

/-- Compiling into given values appends to them what the condition leaves by itself. -/
theorem compileInto_emit (condition : Condition) (given : List Value) :
    condition.compileInto given = (condition.emit.outcome, given ++ condition.emit.bound) := by
  induction condition using induct generalizing given with
  | comparison c =>
      rw [compileInto, emit]
      cases c.compile with
      | error fault => exact Prod.ext rfl (List.append_nil given).symm
      | ok part => rfl
  | group connective members ih =>
      rw [compileInto, emit, compileAllInto_emit ih]

theorem compile_emit (condition : Condition) :
    condition.compile = condition.emit.outcome.map fun sql => ⟨sql, condition.emit.bound⟩ := by
  rw [compile, compileInto_emit]
  rfl

theorem compile_comparison (c : Comparison) : (comparison c).compile = c.compile := by
  rw [compile_emit, emit]
  cases c.compile <;> rfl

theorem emitAll_eq (members : List Condition) :
    (emitAll members).outcome.map (fun texts => (texts, (emitAll members).bound)) =
      (members.mapM compile).map fun parts =>
        (parts.map Statement.sql, parts.flatMap Statement.args) := by
  induction members with
  | nil => rfl
  | cons m rest ih =>
      rw [List.mapM_cons]
      simp only [emitAll, compile_emit]
      cases m.emit.outcome with
      | error fault => rfl
      | ok text =>
          cases parts : rest.mapM compile with
          | error fault =>
              rw [parts] at ih
              cases later : (emitAll rest).outcome <;> simp_all [Except.map, bind, Except.bind]
          | ok parts =>
              rw [parts] at ih
              cases later : (emitAll rest).outcome <;>
                simp_all [Except.map, bind, Except.bind, pure, Except.pure]

/-- A group compiles by compiling its members in turn. -/
theorem compile_group (connective : Option Connective) (members : List Condition) :
    (group connective members).compile = (members.mapM compile).map fun parts =>
      ⟨enclosed connective (parts.map Statement.sql), parts.flatMap Statement.args⟩ := by
  have both := congrArg (Except.map fun p : List String × List Value =>
    (⟨enclosed connective p.1, p.2⟩ : Statement)) (emitAll_eq members)
  rw [compile_emit, emit]
  cases texts : (emitAll members).outcome <;> cases parts : members.mapM compile <;>
    simp_all [Except.map]

/-- Parts of a group as one part in parentheses, nothing when there are none. -/
def gathered (connective : Option Connective) : List Statement → Statement
  | [] => .raw ""
  | part :: rest =>
    .raw "(" ++ .joined (" " ++ (connective.getD .and).sql ++ " ") (part :: rest) ++ .raw ")"

theorem gathered_ne_empty (connective : Option Connective) {parts : List Statement}
    (h : parts ≠ []) : (gathered connective parts).sql ≠ "" := by
  cases parts with
  | nil => exact absurd rfl h
  | cons part rest =>
      intro empty
      have nothing := congrArg String.toList empty
      simp [gathered] at nothing

/-- The parts without a text leave no trace in a group. -/
theorem enclosed_eq (connective : Option Connective) {parts : List Statement}
    (bare : ∀ part ∈ parts, part.sql = "" → part.args = []) :
    ⟨enclosed connective (parts.map Statement.sql), parts.flatMap Statement.args⟩ =
      gathered connective (parts.filter (·.sql ≠ "")) := by
  have args : parts.flatMap Statement.args =
      (parts.filter (·.sql ≠ "")).flatMap Statement.args := by
    induction parts with
    | nil => rfl
    | cons part rest ih =>
        have hrest := ih fun p hp => bare p (List.mem_cons_of_mem part hp)
        by_cases empty : part.sql = ""
        · simp [empty, bare part List.mem_cons_self empty, hrest]
        · simp [empty, hrest]
  have texts : (parts.map Statement.sql).filter (· ≠ "") =
      (parts.filter (·.sql ≠ "")).map Statement.sql := List.filter_map
  rw [args, enclosed, texts]
  cases parts.filter (·.sql ≠ "") with
  | nil => rfl
  | cons part rest => simp [gathered, Statement.ext_iff, Statement.joined]

/-- What a condition compiles to: nothing when it holds no comparison, and otherwise a text. -/
structure Shown (condition : Condition) (part : Statement) : Prop where
  compiled : condition.compile = .ok part
  empty : condition.live = false → part = .raw ""
  present : condition.live = true → part.sql ≠ ""

theorem Shown.bare {condition : Condition} {part : Statement} (h : Shown condition part)
    (empty : part.sql = "") : part.args = [] := by
  cases held : condition.live with
  | false => rw [h.empty held, Statement.args_raw]
  | true => exact absurd empty (h.present held)

theorem shown_filter {members : List Condition} {parts : List Statement}
    (h : List.Forall₂ Shown members parts) :
    List.Forall₂ Shown (members.filter live) (parts.filter (·.sql ≠ "")) := by
  induction h with
  | nil => exact .nil
  | @cons m part rest later hm _ ih =>
      cases held : m.live with
      | false =>
          rw [List.filter_cons_of_neg (by simp [held]),
            List.filter_cons_of_neg (by simp [hm.empty held])]
          exact ih
      | true =>
          rw [List.filter_cons_of_pos held, List.filter_cons_of_pos (by simp [hm.present held])]
          exact .cons hm ih

theorem gathered_of_shown {connective : Option Connective} {members : List Condition}
    {part : Statement} (each : ∀ m ∈ members, ∀ p, m.compile = .ok p → Shown m p)
    (h : (group connective members).compile = .ok part) :
    ∃ parts, List.Forall₂ Shown (members.filter live) parts ∧
      part = gathered connective parts := by
  rw [compile_group] at h
  obtain ⟨parts, compiled, rfl⟩ := map_ok.mp h
  have shown : List.Forall₂ Shown members parts :=
    ((List.forall₂_and_left _ _).mpr ⟨each, mapM_ok.mp compiled⟩).imp fun _ p hp => hp.1 p hp.2
  exact ⟨_, shown_filter shown, enclosed_eq connective (forall_right (fun _ _ h => h.bare) shown)⟩

theorem shown_of_compile {condition : Condition} {part : Statement}
    (h : condition.compile = .ok part) : Shown condition part := by
  induction condition using induct generalizing part with
  | comparison c =>
      refine ⟨h, fun dead => (nomatch dead), fun _ => ?_⟩
      rw [compile_comparison, Comparison.compile_ok] at h
      obtain ⟨column, op, -, -, rfl⟩ := h
      exact Comparison.fragment_ne_empty column op
  | group connective members ih =>
      obtain ⟨parts, shown, rfl⟩ := gathered_of_shown (fun m hm p hp => ih m hm hp) h
      refine ⟨h, fun dead => ?_, fun held => ?_⟩
      · rw [live_group, List.any_eq_false] at dead
        have nothing : members.filter live = [] := List.filter_eq_nil_iff.mpr dead
        rw [nothing, List.forall₂_nil_left_iff] at shown
        rw [shown]
        rfl
      · rw [live_group, List.any_eq_true] at held
        obtain ⟨m, hm, held⟩ := held
        refine gathered_ne_empty connective ?_
        rintro rfl
        rw [List.forall₂_nil_right_iff] at shown
        exact List.filter_eq_nil_iff.mp shown m hm held

/-- A group compiles to the parts of the members that hold a comparison. -/
theorem compile_group_ok {connective : Option Connective} {members : List Condition}
    {part : Statement} (h : (group connective members).compile = .ok part) :
    ∃ parts, List.Forall₂ Shown (members.filter live) parts ∧
      part = gathered connective parts :=
  gathered_of_shown (fun _ _ _ => shown_of_compile) h

/-- Induction on a condition that compiles to a text, down to the fragments of its comparisons. -/
theorem compile_induct {P : Condition → Statement → Prop}
    (comparison : ∀ c op, Name.isColumn c.field.toList → Operator.parse c.operator = .ok op →
      op.fits c.value → P (.comparison c) (c.fragment op))
    (group : ∀ connective members parts, parts ≠ [] →
      List.Forall₂ P (members.filter live) parts →
      P (.group connective members) (gathered connective parts))
    {condition : Condition} {part : Statement} (h : condition.compile = .ok part)
    (present : part.sql ≠ "") : P condition part := by
  induction condition using induct generalizing part with
  | comparison c =>
      rw [compile_comparison, Comparison.compile_ok] at h
      obtain ⟨column, op, parsed, fits, rfl⟩ := h
      exact comparison c op column parsed fits
  | group connective members ih =>
      obtain ⟨parts, shown, rfl⟩ := compile_group_ok h
      have inside : ∀ m ∈ members.filter live, m ∈ members ∧ m.live = true :=
        fun m hm => List.mem_filter.mp hm
      refine group connective members parts ?_ (((List.forall₂_and_left _ _).mpr
        ⟨inside, shown⟩).imp fun m p hp => ih m hp.1.1 hp.2.compiled (hp.2.present hp.1.2))
      rintro rfl
      exact present rfl

/-- A WHERE clause is there exactly when the filter holds a comparison. -/
theorem whereClause_ok {filter : Option Condition} {part : Statement}
    (h : whereClause filter = .ok part) :
    (filter.filter live = none ∧ part = .raw "") ∨
      ∃ condition fragment, filter.filter live = some condition ∧
        condition.compile = .ok fragment ∧ part = .raw " WHERE " ++ fragment := by
  cases filter with
  | none =>
      cases h
      exact .inl ⟨rfl, rfl⟩
  | some condition =>
      obtain ⟨fragment, compiled, h⟩ := bind_ok.mp h
      have shown := shown_of_compile compiled
      cases held : condition.live with
      | false =>
          rw [if_pos (by rw [shown.empty held, Statement.sql_raw]), pure_ok] at h
          exact .inl ⟨by simp [held], h ▸ shown.empty held⟩
      | true =>
          rw [if_neg (shown.present held), pure_ok] at h
          exact .inr ⟨condition, fragment, by simp [held], compiled, h.symm⟩

end Condition
end BoundSql
