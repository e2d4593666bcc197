import BoundSql.Proofs.Meaning.Truth

/-! Reading a boolean expression with placeholders: AND binds tighter than OR, the AND of a BETWEEN
belongs to it, and parentheses group. -/
namespace BoundSql

/-- A boolean expression as it was read. -/
inductive Formula where
  | atom (column : String) (op : Operator) (values : List Value)
  | both (left right : Formula)
  | either (left right : Formula)

def Formula.truth (assignment : Assignment) : Formula → Truth
  | atom column op values => assignment column op values
  | both left right => (left.truth assignment).and (right.truth assignment)
  | either left right => (left.truth assignment).or (right.truth assignment)

inductive Token where
  | word (text : List Char)
  | symbol (text : List Char)
  | gap
  | mark (c : Char)
deriving DecidableEq

namespace Token

/-- A character before tokens. Characters of a word, and those of a symbol, stay together. -/
def before (c : Char) (later : List Token) : List Token :=
  if Name.isFollowing c || c == '.' then
    match later with
    | word text :: rest => word (c :: text) :: rest
    | _ => word [c] :: later
  else if c ∈ ['=', '!', '<', '>'] then
    match later with
    | symbol text :: rest => symbol (c :: text) :: rest
    | _ => symbol [c] :: later
  else if c = ' ' then gap :: later
  else mark c :: later

/-- The tokens of a text, in front of tokens. -/
def ofText (text : String) (later : List Token) : List Token := text.toList.foldr before later

end Token

namespace Reader

/-- What has been read of an expression in parentheses: the alternatives that an OR has closed, and
the conjunction after them. -/
structure Frame where
  alternatives : Option Formula
  conjunction : Option Formula

namespace Frame

def empty : Frame := ⟨none, none⟩

/-- One more factor of the conjunction. -/
def supply (f : Frame) (factor : Formula) : Frame :=
  { f with conjunction := some (f.conjunction.elim factor (·.both factor)) }

def formula? (f : Frame) : Option Formula :=
  f.conjunction.map fun last => f.alternatives.elim last (·.either last)

end Frame

/-- What the next token has to be. -/
inductive Mode where
  | operand
  | operator (column : String) (words : List String)
  | conjunct (column : String) (low : Value)
  | ceiling (column : String) (low : Value)
  | member (column : String) (op : Operator) (values : List Value)
  | separator (column : String) (op : Operator) (values : List Value)
  | connective

structure State where
  mode : Mode
  frame : Frame
  outer : List Frame
  args : List Value

namespace State

def supply (s : State) (factor : Formula) : State :=
  { s with mode := .connective, frame := s.frame.supply factor }

/-- The state with the next argument taken. -/
def bind (s : State) (next : Value → State) : Option State :=
  match s.args with
  | [] => none
  | value :: later => some { next value with args := later }

/-- One more word of an operator. An operator without an operand is complete at its last word. -/
def extend (s : State) (column : String) (words : List String) : State :=
  match Operator.ofKeyword? (" ".intercalate words) with
  | some op => if op.isUnary then s.supply (.atom column op []) else
      { s with mode := .operator column words }
  | none => { s with mode := .operator column words }

/-- Reads a token. A word where an operand is due is a column, whichever word it is. -/
def step (s : State) (token : Token) : Option State :=
  match s.mode, token with
  | _, .gap => some s
  | .operand, .word text => some { s with mode := .operator (.ofList text) [] }
  | .operand, .mark '(' => some { s with frame := .empty, outer := s.frame :: s.outer }
  | .operator column words, .word text => some (s.extend column (words ++ [.ofList text]))
  | .operator column words, .symbol text => some (s.extend column (words ++ [.ofList text]))
  | .operator column words, .mark '?' =>
    match Operator.ofKeyword? (" ".intercalate words) with
    | some op =>
      if op = .between then s.bind fun low => { s with mode := .conjunct column low }
      else if op.isMembership then none
      else s.bind fun value => s.supply (.atom column op [value])
    | none => none
  | .operator column words, .mark '(' =>
    match Operator.ofKeyword? (" ".intercalate words) with
    | some op => if op.isMembership then some { s with mode := .member column op [] } else none
    | none => none
  | .conjunct column low, .word text =>
    if text = "AND".toList then some { s with mode := .ceiling column low } else none
  | .ceiling column low, .mark '?' =>
    s.bind fun high => s.supply (.atom column .between [low, high])
  | .member column op values, .mark '?' =>
    s.bind fun value => { s with mode := .separator column op (values ++ [value]) }
  | .separator column op values, .mark ',' => some { s with mode := .member column op values }
  | .separator column op values, .mark ')' => some (s.supply (.atom column op values))
  | .connective, .word text =>
    if text = "AND".toList then some { s with mode := .operand }
    else if text = "OR".toList then
      some { s with mode := .operand, frame := ⟨s.frame.formula?, none⟩ }
    else none
  | .connective, .mark ')' =>
    match s.frame.formula?, s.outer with
    | some formula, frame :: outer => some ({ s with frame, outer }.supply formula)
    | _, _ => none
  | _, _ => none

def run (s : State) (tokens : List Token) : Option State := tokens.foldlM step s

end State

/-- Reads a text whose placeholders stand for the values in turn. Every value must be taken. -/
def read (text : String) (args : List Value) : Option Formula :=
  match State.run ⟨.operand, .empty, [], args⟩ (Token.ofText text []) with
  | some ⟨.connective, frame, [], []⟩ => frame.formula?
  | _ => none

end Reader
end BoundSql
