import BoundSql.Value

/-! Statements: a SQL text with `?` placeholders, and the values bound to them. -/
namespace BoundSql

/-- A SQL text and its arguments, in the order of the placeholders of the text. A part of a
statement is a statement too. -/
structure Statement where
  sql : String
  args : List Value
deriving Inhabited

namespace Statement

/-- A text that binds nothing. -/
def raw (sql : String) : Statement := ⟨sql, []⟩

def append (a b : Statement) : Statement := ⟨a.sql ++ b.sql, a.args ++ b.args⟩

instance : Append Statement := ⟨append⟩

/-- Parts after one another, a separator between their texts. -/
def joined (separator : String) (parts : List Statement) : Statement :=
  ⟨separator.intercalate (parts.map sql), parts.flatMap args⟩

/-- The number of question marks outside string literals, where a single quote opens or closes a
literal. -/
def placeholders (inLiteral : Bool) : List Char → Nat
  | [] => 0
  | c :: rest =>
    if c = '\'' then placeholders (!inLiteral) rest
    else if c = '?' && !inLiteral then placeholders inLiteral rest + 1
    else placeholders inLiteral rest

def placeholderCount (s : Statement) : Nat := placeholders false s.sql.toList

end Statement
end BoundSql
