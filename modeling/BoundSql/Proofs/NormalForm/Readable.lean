import BoundSql.Proofs.Meaning.Fragment
import BoundSql.Proofs.NormalForm.Basic

/-! Reading a condition off the front of a longer text. Text and arguments tell its normal form, and
where it ends in both. -/
namespace BoundSql

namespace Token

/-- Tokens that neither a word nor a symbol in front of them runs into. -/
def Apart : List Token → Prop
  | word _ :: _ | symbol _ :: _ => False
  | _ => True

theorem Apart.loose {tokens : List Token} (h : Apart tokens) : Loose tokens := by
  rcases tokens with _ | ⟨_ | _ | _ | _, rest⟩
  case cons.word => exact h
  all_goals trivial

theorem before_append (c : Char) (tokens : List Token) {later : List Token} (h : Apart later) :
    before c (tokens ++ later) = before c tokens ++ later := by
  cases tokens with
  | nil =>
      rcases later with _ | ⟨_ | _ | _ | _, later⟩
      case cons.word | cons.symbol => exact h.elim
      all_goals
        simp only [before, List.nil_append]
        split_ifs <;> rfl
  | cons token rest =>
      cases token <;>
        simp only [before, List.cons_append] <;>
        split_ifs <;> rfl

theorem ofText_apart (text : String) {later : List Token} (h : Apart later) :
    ofText text later = ofText text [] ++ later := by
  unfold ofText
  induction text.toList with
  | nil => rfl
  | cons c rest ih => rw [List.foldr_cons, List.foldr_cons, ih, before_append c _ h]

/-- The words and symbols at the front, which NULL is the last of. -/
def leading : List Token → List String
  | word text :: rest =>
    String.ofList text :: if text = "NULL".toList then [] else leading rest
  | symbol text :: rest => String.ofList text :: leading rest
  | gap :: rest => leading rest
  | _ => []

end Token

namespace Reader
open Token

variable {op other : Operator} {v w : Value} {tokens tokens' : List Token}

theorem operand_members (member : op.isMembership = true) (fits : op.fits v) :
    ∃ item items, op.bound v = item :: items ∧ ∀ form, op.operand form v =
      " (" ++ ", ".intercalate ((item :: items).map form) ++ ")" := by
  obtain ⟨unary, -⟩ | ⟨-, found⟩ | ⟨rfl, -⟩ | ⟨-, single, -⟩ := Operator.operand_cases fits
  · rw [Operator.not_unary_of_membership member] at unary
    cases unary
  · exact found
  · cases member
  · rw [member] at single
    cases single

theorem operand_begins (unary : op.isUnary = false) (fits : op.fits v) (tokens : List Token) :
    ∃ c more, ofText (op.operand (fun _ => "?") v) tokens = .gap :: .mark c :: more := by
  obtain ⟨no, -⟩ | ⟨-, item, items, -, operand⟩ | ⟨-, low, high, -, operand⟩ |
    ⟨-, -, -, -, operand⟩ := Operator.operand_cases fits
  · rw [unary] at no
    cases no
  · rw [operand, ofText_members]
    exact ⟨_, _, rfl⟩
  · rw [operand, ofText_bounds]
    exact ⟨_, _, rfl⟩
  · rw [operand, ofText_single]
    exact ⟨_, _, rfl⟩

theorem operand_unary (unary : op.isUnary = true) (v : Value) :
    ofText (op.operand (fun _ => "?") v) tokens = tokens := by
  cases op
  case isNull | isNotNull => rfl
  all_goals cases unary

theorem operand_apart (fits : op.fits v) (apart : Apart tokens) :
    Apart (ofText (op.operand (fun _ => "?") v) tokens) := by
  cases unary : op.isUnary with
  | true => rwa [operand_unary unary]
  | false =>
      obtain ⟨c, more, begins⟩ := operand_begins unary fits tokens
      rw [begins]
      trivial

/-- The words of an operator can be told from what follows it. -/
theorem leading_operator (fits : op.fits v) (apart : Apart tokens) :
    leading (ofText op.sql (ofText (op.operand (fun _ => "?") v) tokens)) = op.words := by
  cases unary : op.isUnary with
  | true =>
      -- nothing follows within the comparison, but NULL is the last word that is looked at
      rw [operand_unary unary, ofText_apart _ apart]
      cases op
      case isNull | isNotNull => rfl
      all_goals cases unary
  | false =>
      obtain ⟨c, more, begins⟩ := operand_begins unary fits tokens
      rw [begins]
      cases op
      case isNull | isNotNull => cases unary
      all_goals rfl

theorem operator_cancel (hv : op.fits v) (hw : other.fits w) (apart : Apart tokens)
    (apart' : Apart tokens')
    (h : ofText op.sql (ofText (op.operand (fun _ => "?") v) tokens) =
      ofText other.sql (ofText (other.operand (fun _ => "?") w) tokens')) :
    op = other ∧ ofText (op.operand (fun _ => "?") v) tokens =
      ofText (other.operand (fun _ => "?") w) tokens' := by
  have words : op.words = other.words := by
    rw [← leading_operator hv apart, h, leading_operator hw apart']
  have same : op = other := by
    apply Option.some.inj
    rw [← op.ofKeyword?_words, words, other.ofKeyword?_words]
  subst same
  rw [ofText_apart _ (operand_apart hv apart), ofText_apart _ (operand_apart hw apart')] at h
  exact ⟨rfl, List.append_cancel_left h⟩

theorem marks_tail (marks : List String) (tokens : List Token) :
    List.drop 3 (ofTexts ", " ("?" :: marks) tokens) = ofTexts ", " marks tokens := rfl

theorem marks_cancel {items others : List Value}
    (h : ofTexts ", " (items.map fun _ => "?") (.mark ')' :: tokens) =
      ofTexts ", " (others.map fun _ => "?") (.mark ')' :: tokens')) :
    items.length = others.length ∧ tokens = tokens' := by
  induction items generalizing others with
  | nil =>
      cases others with
      | nil => exact ⟨rfl, (List.cons.inj h).2⟩
      | cons => exact absurd (List.cons.inj h).1 (by decide)
  | cons item items ih =>
      cases others with
      | nil => exact absurd (List.cons.inj h).1 (by decide)
      | cons next others =>
          have later := congrArg (List.drop 3) h
          rw [List.map_cons, List.map_cons, marks_tail, marks_tail] at later
          obtain ⟨size, rest⟩ := ih later
          exact ⟨congrArg Nat.succ size, rest⟩

/-- The operands of one operator tell which values are bound, and where the text goes on. -/
theorem operand_cancel (hv : op.fits v) (hw : op.fits w) {later later' : List Value}
    (texts : ofText (op.operand (fun _ => "?") v) tokens =
      ofText (op.operand (fun _ => "?") w) tokens')
    (args : op.bound v ++ later = op.bound w ++ later') :
    op.bound v = op.bound w ∧ tokens = tokens' ∧ later = later' := by
  cases op
  case isNull | isNotNull => exact ⟨rfl, texts, args⟩
  case isIn | notIn =>
      obtain ⟨item, items, bound, operand⟩ := operand_members rfl hv
      obtain ⟨next, others, bound', operand'⟩ := operand_members rfl hw
      rw [operand, operand', ofText_members, ofText_members] at texts
      obtain ⟨-, opened⟩ := List.cons.inj texts
      obtain ⟨-, first⟩ := List.cons.inj opened
      obtain ⟨size, rest⟩ := marks_cancel (List.cons.inj first).2
      rw [bound, bound'] at args ⊢
      obtain ⟨values, more⟩ := List.append_inj args (congrArg Nat.succ size)
      exact ⟨values, rest, more⟩
  case between =>
      have bounds : ∀ u : Value, Operator.fits .between u →
          ∃ low high, u = .list [low, high] := by
        intro u fits
        rcases u with _ | _ | _ | _ | _ | (_ | ⟨low, _ | ⟨high, _ | ⟨more, items⟩⟩⟩)
        case list.cons.cons.nil => exact ⟨low, high, rfl⟩
        all_goals cases fits
      obtain ⟨low, high, rfl⟩ := bounds v hv
      obtain ⟨low', high', rfl⟩ := bounds w hw
      obtain ⟨values, more⟩ := List.append_inj args rfl
      change ofText (" " ++ "?" ++ " AND " ++ "?") tokens =
        ofText (" " ++ "?" ++ " AND " ++ "?") tokens' at texts
      rw [ofText_bounds, ofText_bounds] at texts
      exact ⟨values, congrArg (List.drop 6) texts, more⟩
  all_goals
    obtain ⟨values, more⟩ := List.append_inj args rfl
    change ofText (" " ++ "?") tokens = ofText (" " ++ "?") tokens' at texts
    rw [ofText_single, ofText_single] at texts
    exact ⟨values, congrArg (List.drop 2) texts, more⟩

/-- A statement in front of what else is to be read. -/
def ahead (s : Statement) (rest : List Token × List Value) : List Token × List Value :=
  (ofText s.sql rest.1, s.args ++ rest.2)

/-- The members of a group after the first, up to the parenthesis that closes the group. -/
def operands (connective : Connective) (parts : List Statement)
    (rest : List Token × List Value) : List Token × List Value :=
  (ofTexts (" " ++ connective.sql ++ " ") (parts.map Statement.sql) (.mark ')' :: rest.1),
    parts.flatMap Statement.args ++ rest.2)

/-- A condition whose text with its arguments stands for no condition of another normal form, and
in front of no other rest. -/
def Legible (condition : Condition) (part : Statement) : Prop :=
  ∀ other part', Condition.Shown other part' → other.live = true →
    ∀ rest rest', Apart rest.1 → Apart rest'.1 → ahead part rest = ahead part' rest' →
      condition.normal = other.normal ∧ rest = rest'

theorem shown_group {connective : Option Connective} {members : List Condition}
    {part : Statement} (h : Condition.Shown (.group connective members) part)
    (held : (Condition.group connective members).live = true) :
    ∃ parts, parts ≠ [] ∧ part = Condition.gathered connective parts ∧
      List.Forall₂ (fun m p => m.live = true ∧ Condition.Shown m p)
        (members.filter Condition.live) parts := by
  obtain ⟨parts, shown, rfl⟩ := Condition.compile_group_ok h.compiled
  refine ⟨parts, ?_, rfl, ?_⟩
  · rintro rfl
    exact h.present held rfl
  · exact (List.forall₂_and_left _ _).mpr ⟨fun m hm => (List.mem_filter.mp hm).2, shown⟩

theorem ahead_fragment {c : Comparison} {op : Operator} (column : Name.isColumn c.field.toList)
    (rest : List Token × List Value) :
    ahead (c.fragment op) rest = (.word c.field.toList :: .gap ::
      ofText op.sql (ofText (op.operand (fun _ => "?") c.value) rest.1),
      op.bound c.value ++ rest.2) := by
  rw [ahead, ofText_fragment, ofText_column column (show Loose (.gap :: _) from trivial)]
  rfl

theorem ahead_gathered (connective : Option Connective) (first : Statement)
    (parts : List Statement) (rest : List Token × List Value) :
    ahead (Condition.gathered connective (first :: parts)) rest =
      (.mark '(' :: (ahead first (operands (connective.getD .and) parts rest)).1,
        (ahead first (operands (connective.getD .and) parts rest)).2) := by
  rw [ahead, ofText_gathered, args_gathered, List.append_assoc]
  rfl

theorem operands_apart (connective : Connective) (parts : List Statement)
    (rest : List Token × List Value) : Apart (operands connective parts rest).1 := by
  cases parts <;> cases connective <;> trivial

theorem operands_cons (connective : Connective) (part : Statement) (parts : List Statement)
    (rest : List Token × List Value) :
    operands connective (part :: parts) rest =
      (.gap :: .word connective.sql.toList :: .gap ::
          (ahead part (operands connective parts rest)).1,
        (ahead part (operands connective parts rest)).2) := by
  rw [operands, List.flatMap_cons, List.append_assoc]
  cases connective <;> rfl

theorem legible_comparison {c : Comparison} {op : Operator}
    (column : Name.isColumn c.field.toList) (parsed : Operator.parse c.operator = .ok op)
    (fits : op.fits c.value) : Legible (.comparison c) (c.fragment op) := by
  intro other part' shown held rest rest' apart apart' same
  cases other with
  | comparison d =>
      have compiled := shown.compiled
      rw [Condition.compile_comparison] at compiled
      obtain ⟨column', op', parsed', fits', rfl⟩ := Comparison.compile_ok.mp compiled
      rw [ahead_fragment column, ahead_fragment column'] at same
      obtain ⟨texts, args⟩ := Prod.mk.inj same
      obtain ⟨name, spaced⟩ := List.cons.inj texts
      have field : c.field = d.field := String.toList_inj.mp (Token.word.inj name)
      obtain ⟨rfl, operand⟩ := operator_cancel fits fits' apart apart' (List.cons.inj spaced).2
      obtain ⟨bound, tokens, later⟩ := operand_cancel fits fits' operand args
      refine ⟨?_, Prod.ext tokens later⟩
      rw [Condition.normal, Condition.normal, Comparison.normal_of_parse parsed,
        Comparison.normal_of_parse parsed', field, Operator.normalValue_eq fits,
        Operator.normalValue_eq fits', bound]
  | group connective members =>
      -- a group begins with a parenthesis, which no column does
      obtain ⟨parts, present, rfl, -⟩ := shown_group shown held
      cases parts with
      | nil => exact absurd rfl present
      | cons first parts =>
          rw [ahead_fragment column, ahead_gathered] at same
          exact absurd (List.cons.inj (Prod.mk.inj same).1).1 (by simp)

/-- The later members of two groups, one by one. -/
theorem operands_cancel {connective connective' : Connective} {members members' : List Condition}
    {parts parts' : List Statement} (legible : List.Forall₂ Legible members parts)
    (shown : List.Forall₂ (fun m p => m.live = true ∧ Condition.Shown m p) members' parts')
    {rest rest' : List Token × List Value}
    (same : operands connective parts rest = operands connective' parts' rest') :
    members.map Condition.normal = members'.map Condition.normal ∧ rest = rest' ∧
      (members ≠ [] → connective = connective') := by
  induction legible generalizing members' parts' with
  | nil =>
      cases shown with
      | nil =>
          obtain ⟨texts, args⟩ := Prod.mk.inj same
          exact ⟨rfl, Prod.ext (List.cons.inj texts).2 args, fun none => absurd rfl none⟩
      | cons =>
          rw [operands_cons] at same
          exact absurd (List.cons.inj (Prod.mk.inj same).1).1 (by decide)
  | cons first _ ih =>
      cases shown with
      | nil =>
          rw [operands_cons] at same
          exact absurd (List.cons.inj (Prod.mk.inj same).1).1 (by decide)
      | cons first' later' =>
          rw [operands_cons, operands_cons] at same
          obtain ⟨texts, args⟩ := Prod.mk.inj same
          obtain ⟨-, texts⟩ := List.cons.inj texts
          obtain ⟨word, texts⟩ := List.cons.inj texts
          obtain ⟨-, texts⟩ := List.cons.inj texts
          obtain ⟨normal, follows⟩ := first _ _ first'.2 first'.1 _ _
            (operands_apart _ _ _) (operands_apart _ _ _) (Prod.ext texts args)
          obtain ⟨normals, ends, -⟩ := ih later' follows
          refine ⟨?_, ends, fun _ => ?_⟩
          · rw [List.map_cons, List.map_cons, normal, normals]
          · revert word
            cases connective <;> cases connective' <;> decide

theorem legible_group (connective : Option Connective) {members : List Condition}
    {parts : List Statement} (present : parts ≠ [])
    (legible : List.Forall₂ Legible (members.filter Condition.live) parts) :
    Legible (.group connective members) (Condition.gathered connective parts) := by
  intro other part' shown held rest rest' apart apart' same
  cases other with
  | comparison d =>
      have compiled := shown.compiled
      rw [Condition.compile_comparison] at compiled
      obtain ⟨column, op, -, -, rfl⟩ := Comparison.compile_ok.mp compiled
      cases parts with
      | nil => exact absurd rfl present
      | cons first parts =>
          rw [ahead_fragment column, ahead_gathered] at same
          exact absurd (List.cons.inj (Prod.mk.inj same).1).1 (by simp)
  | group connective' members' =>
      obtain ⟨parts', present', rfl, each⟩ := shown_group shown held
      rw [Condition.normal, Condition.normal, Condition.normalAll_eq, Condition.normalAll_eq]
      generalize members.filter Condition.live = kept at legible ⊢
      generalize members'.filter Condition.live = kept' at each ⊢
      cases legible with
      | nil => exact absurd rfl present
      | cons first later =>
          cases each with
          | nil => exact absurd rfl present'
          | cons first' later' =>
              rw [ahead_gathered, ahead_gathered] at same
              obtain ⟨texts, args⟩ := Prod.mk.inj same
              obtain ⟨normal, follows⟩ := first _ _ first'.2 first'.1 _ _
                (operands_apart _ _ _) (operands_apart _ _ _)
                (Prod.ext (List.cons.inj texts).2 args)
              obtain ⟨normals, ends, connectives⟩ := operands_cancel later later' follows
              refine ⟨?_, ends⟩
              rw [List.map_cons, List.map_cons, normal, ← normals]
              cases later with
              | nil => rfl
              | cons => rw [List.map_cons, Connective.between, Connective.between,
                  connectives (List.cons_ne_nil _ _)]

theorem legible_compile {condition : Condition} {part : Statement}
    (h : condition.compile = .ok part) (present : part.sql ≠ "") : Legible condition part :=
  Condition.compile_induct (fun _ _ => legible_comparison)
    (fun connective _ _ some each => legible_group connective some each) h present

end Reader

namespace Condition

/-- Nothing is lost in compiling but what the normal form leaves out: two conditions compile to the
same text with the same arguments exactly when they have one normal form. -/
theorem compile_eq_iff_normal (a b : Condition) (part other : Statement)
    (ha : a.compile = .ok part) (hb : b.compile = .ok other) :
    (part.sql = other.sql ∧ part.args = other.args) ↔ a.normal = b.normal := by
  have shown := shown_of_compile hb
  constructor
  · rintro ⟨sql, args⟩
    cases held : a.live with
    | false =>
        -- only what holds no comparison compiles to nothing
        have empty := (shown_of_compile ha).empty held
        have dead : b.live = false := by
          by_contra live
          apply shown.present (by simpa using live)
          rw [← sql, empty, Statement.sql_raw]
        rw [normal_of_not_live held, normal_of_not_live dead]
    | true =>
        have present := (shown_of_compile ha).present held
        have live : b.live = true := by
          by_contra dead
          have empty := shown.empty (by simpa using dead)
          apply present
          rw [sql, empty, Statement.sql_raw]
        have same : Reader.ahead part ([], []) = Reader.ahead other ([], []) := by
          rw [Reader.ahead, Reader.ahead, sql, args]
        exact (Reader.legible_compile ha present b other shown live ([], []) ([], [])
          trivial trivial same).1
  · intro same
    rw [← statement_normal ha, ← statement_normal hb, same]
    exact ⟨rfl, rfl⟩

/-- One membership, spelled and grouped in two ways. -/
def spelled : Condition × Condition :=
  (.any [.all [], .leaf "age" " not  in" (.integer 5), .group none [.leaf "id" "=" .null]],
    .group (some .or) [.leaf "age" "NOT IN" (.list [.integer 5]),
      .any [.any [.all []], .leaf "id" "=" .null]])

set_option maxRecDepth 10000 in
theorem normal_spelled :
    ∃ part, spelled.1.compile = .ok part ∧ spelled.2.compile = .ok part ∧
      part.sql = "(age NOT IN (?) OR (id = ?))" ∧ part.args = [.integer 5, .null] ∧
      spelled.1.normal = spelled.2.normal := by
  have first : spelled.1.compile =
      .ok ⟨"(age NOT IN (?) OR (id = ?))", [.integer 5, .null]⟩ := by rfl
  have second : spelled.2.compile =
      .ok ⟨"(age NOT IN (?) OR (id = ?))", [.integer 5, .null]⟩ := by rfl
  exact ⟨_, first, second, rfl, rfl,
    (compile_eq_iff_normal spelled.1 spelled.2 _ _ first second).mp ⟨rfl, rfl⟩⟩

end Condition
end BoundSql
