import BoundSql.Change.Row
import BoundSql.Proofs.Name
import BoundSql.Text.Blank
import BoundSql.Text.Digits

/-! Reading INSERT statements whose values stand in them: names, texts in single quotes, whole
numbers with or without a sign, NULL, TRUE, FALSE, and lists in parentheses. -/
namespace BoundSql.Literal

inductive Token where
  | word (cs : List Char)
  | text (s : String)
  | mark (c : Char)
deriving DecidableEq

/-- Where in a statement a character is due. -/
inductive Place where
  | between
  | word (taken : List Char)
  | text (taken : List Char)
  /-- After a quote inside a text, which is the end unless another quote follows. -/
  | quote (taken : List Char)
deriving DecidableEq

namespace Place

/-- The token that ends before a character which does not belong to it. -/
def ended : Place → List Token
  | word taken => [.word taken.reverse]
  | quote taken => [.text (.ofList taken.reverse)]
  | _ => []

/-- The first character after a token, as a token or as the place that it leads to. -/
def start (c : Char) : List Token × Place :=
  if c = '\'' then ([], text [])
  else if Name.isFollowing c then ([], word [c])
  else if Text.isBlank c then ([], between)
  else ([.mark c], between)

/-- The tokens that a character completes, and the place after it. -/
def step (p : Place) (c : Char) : List Token × Place :=
  match p with
  | text taken => ([], if c = '\'' then quote taken else text (c :: taken))
  | quote taken =>
    if c = '\'' then ([], text (c :: taken)) else (p.ended ++ (start c).1, (start c).2)
  | word taken =>
    if Name.isFollowing c then ([], word (c :: taken)) else (p.ended ++ (start c).1, (start c).2)
  | between => start c

end Place

/-- The tokens of a text from a place on. A text in quotes has to be closed. -/
def tokensFrom : Place → List Char → Option (List Token)
  | .text _, [] => none
  | p, [] => some p.ended
  | p, c :: rest => (tokensFrom (p.step c).2 rest).map ((p.step c).1 ++ ·)

def isKeyword (keyword : String) (cs : List Char) : Bool :=
  cs.map Char.toUpper == keyword.toList

/-- A whole number that sixty-four bits with a sign can hold. -/
def integer? (negative : Bool) (cs : List Char) : Option Value :=
  (Text.nat? cs).bind fun n =>
    let n : Int := if negative then -n else n
    if -9223372036854775808 ≤ n ∧ n ≤ 9223372036854775807 then some (.integer (.ofInt n)) else none

/-- The value that a word stands for. -/
def word? (cs : List Char) : Option Value :=
  if isKeyword "NULL" cs then some .null
  else if isKeyword "TRUE" cs then some (.bool true)
  else if isKeyword "FALSE" cs then some (.bool false)
  else integer? false cs

/-- What the next token has to be. -/
inductive Due where
  | value
  | valueOrEnd
  | digits (negative : Bool)
  | separator
deriving DecidableEq

/-- What has been read of some values: the items of the innermost open list, and those of the lists
around it. -/
structure State where
  due : Due
  items : List Value
  outer : List (List Value)

namespace State

/-- Whether a value may begin here. -/
def isOpen (s : State) : Bool := s.due = .value || s.due = .valueOrEnd

/-- One more item of the innermost list. -/
def supply (s : State) (v : Value) : State := ⟨.separator, s.items ++ [v], s.outer⟩

/-- The innermost list as an item of the list around it. -/
def close (s : State) : Option State :=
  match s.outer with
  | [] => none
  | items :: outer => some (supply ⟨.separator, items, outer⟩ (.list s.items))

def step (s : State) : Token → Option State
  | .word cs =>
    match s.due with
    | .digits negative => (integer? negative cs).map s.supply
    | _ => if s.isOpen then (word? cs).map s.supply else none
  | .text t => if s.isOpen then some (s.supply (.text t)) else none
  | .mark '(' => if s.isOpen then some ⟨.valueOrEnd, [], s.items :: s.outer⟩ else none
  | .mark ')' => if s.due = .separator || s.due = .valueOrEnd then s.close else none
  | .mark ',' => if s.due = .separator then some { s with due := .value } else none
  | .mark '-' => if s.isOpen then some { s with due := .digits true } else none
  | .mark '+' => if s.isOpen then some { s with due := .digits false } else none
  | .mark _ => none

def run (s : State) (tokens : List Token) : Option State := tokens.foldlM step s

end State

def items? : Value → Option (List Value)
  | .list items => some items
  | _ => none

/-- The rows of an INSERT statement, which are lists with commas between them. -/
def rows? (tokens : List Token) : Option (List (List Value)) :=
  match State.run ⟨.value, [], []⟩ tokens with
  | some ⟨.separator, groups, []⟩ => groups.mapM items?
  | _ => none

/-- Names with commas between them, up to a closing parenthesis, and the tokens after it. -/
def names? : List Token → Option (List String × List Token)
  | .word cs :: .mark ',' :: rest =>
    if Name.isIdentifier cs then
      (names? rest).map fun (names, rest) => (.ofList cs :: names, rest)
    else none
  | .word cs :: .mark ')' :: rest =>
    if Name.isIdentifier cs then some ([.ofList cs], rest) else none
  | _ => none

/-- Reads a statement `INSERT INTO table (columns) VALUES rows` to its end. -/
def insert? : List Token → Option Aligned
  | .word insert :: .word into :: .word table :: .mark '(' :: rest =>
    if isKeyword "INSERT" insert && isKeyword "INTO" into && Name.isIdentifier table then
      match names? rest with
      | some (columns, .word values :: rest) =>
        if isKeyword "VALUES" values then
          (rows? rest).map fun rows => ⟨.ofList table, columns, rows⟩
        else none
      | _ => none
    else none
  | _ => none

/-- The rows that a statement inserts, under its columns. -/
def read? (sql : String) : Option Aligned := (tokensFrom .between sql.toList).bind insert?

end BoundSql.Literal
