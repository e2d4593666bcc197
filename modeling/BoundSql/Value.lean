import BoundSql.Number.Layout

/-! The values that a statement binds to its placeholders, and their text as SQL literals. -/
namespace BoundSql

/-- A value bound to one placeholder. A list takes one placeholder for each of its items after a
membership or range operator, and a single one anywhere else. -/
inductive Value where
  | null
  | bool (b : Bool)
  | integer (n : Int64)
  | real (x : Binary64)
  | text (s : String)
  | list (items : List Value)
deriving Inhabited

namespace Value

def isNull : Value → Bool
  | null => true
  | _ => false

def kind : Value → String
  | null => "null"
  | bool _ => "bool"
  | integer _ => "integer"
  | real _ => "real"
  | text _ => "text"
  | list _ => "list"

/-- The characters of a text literal between its quotes: a quote is written twice. -/
def quoteChars : List Char → List Char
  | [] => []
  | c :: rest => if c = '\'' then '\'' :: '\'' :: quoteChars rest else c :: quoteChars rest

def textLiteral (s : String) : String :=
  "'" ++ String.ofList (quoteChars s.toList) ++ "'"

/-- A real number as a SQL literal. SQL has no literal for a number that is not finite. -/
def realLiteral (x : Binary64) : String :=
  if x.isFinite then Layout.plain.render x else "NULL"

mutual

/-- A value as a SQL literal, for reading and never for execution. -/
def literal : Value → String
  | null => "NULL"
  | bool b => if b then "TRUE" else "FALSE"
  | integer n => Text.ofInt n.toInt
  | real x => realLiteral x
  | text s => textLiteral s
  | list items => "(" ++ ", ".intercalate (literals items) ++ ")"

def literals : List Value → List String
  | [] => []
  | v :: rest => v.literal :: literals rest

end

end Value
end BoundSql
