import BoundSql.Fault
import BoundSql.Text.Blank

/-! Comparison operators, and the texts that stand for them. -/
namespace BoundSql

inductive Operator where
  | equal
  | notEqual
  | notEqualAnsi
  | greater
  | less
  | greaterOrEqual
  | lessOrEqual
  | like
  | notLike
  | iLike
  | isIn
  | notIn
  | between
  | is
  | isNot
  | isNull
  | isNotNull
deriving DecidableEq

namespace Operator

def all : List Operator :=
  [equal, notEqual, notEqualAnsi, greater, less, greaterOrEqual, lessOrEqual, like, notLike,
    iLike, isIn, notIn, between, is, isNot, isNull, isNotNull]

def sql : Operator → String
  | equal => "="
  | notEqual => "!="
  | notEqualAnsi => "<>"
  | greater => ">"
  | less => "<"
  | greaterOrEqual => ">="
  | lessOrEqual => "<="
  | like => "LIKE"
  | notLike => "NOT LIKE"
  | iLike => "ILIKE"
  | isIn => "IN"
  | notIn => "NOT IN"
  | between => "BETWEEN"
  | is => "IS"
  | isNot => "IS NOT"
  | isNull => "IS NULL"
  | isNotNull => "IS NOT NULL"

def isUnary (op : Operator) : Bool := op = isNull || op = isNotNull

def isMembership (op : Operator) : Bool := op = isIn || op = notIn

/-- The operator whose text is exactly the given one. -/
def ofKeyword? (keyword : String) : Option Operator := all.find? fun op => op.sql = keyword

/-- A text with one space between its words and its ASCII letters in upper case. -/
def normalized (text : String) : String :=
  String.ofList ((" ".intercalate ((Text.words text.toList).map String.ofList)).toList.map
    Char.toUpper)

/-- Reads an operator in any case of its letters and with any white space between its words. -/
def parse (text : String) : Except Fault Operator :=
  match ofKeyword? (normalized text) with
  | some op => .ok op
  | none => .error (.invalidOperator text)

end Operator
end BoundSql
