import BoundSql.Fault
import BoundSql.Text.Regex
import BoundSql.Text.Split

/-! Names of tables and columns. A name is spliced into the statement's text, so it must be a
plain identifier, and nothing is ever quoted to make it one. -/
namespace BoundSql.Name

/-- ASCII letters and the underscore. -/
def initials : Regex.Class := [('A', 'Z'), ('a', 'z'), ('_', '_')]

/-- ASCII letters, ASCII digits and the underscore. -/
def followings : Regex.Class := [('A', 'Z'), ('a', 'z'), ('0', '9'), ('_', '_')]

/-- The pattern of an identifier, `^[A-Za-z_][A-Za-z0-9_]*$`. -/
def pattern : Regex := [.start, .one initials, .many followings, .finish]

def isIdentifier (cs : List Char) : Bool := pattern.isMatch cs

/-- A column: an identifier, or two with a dot between them. Only the first dot divides. -/
def isColumn (cs : List Char) : Bool := (Text.splitUpTo '.' 2 cs).all isIdentifier

def checkIdentifier (name : String) : Except Fault Unit :=
  if isIdentifier name.toList then .ok () else .error (.invalidIdentifier name)

/-- Accepts the name of a table, an identifier. -/
def checkTable (name : String) : Except Fault Unit :=
  if isIdentifier name.toList then .ok () else .error (.invalidTableName name)

def checkColumn (name : String) : Except Fault Unit :=
  if isColumn name.toList then .ok () else .error (.invalidIdentifier name)

/-- Accepts identifiers only, and blames the first other name. -/
def checkIdentifiers : List String → Except Fault Unit
  | [] => .ok ()
  | name :: rest => do
    checkIdentifier name
    checkIdentifiers rest

/-- Accepts an optional identifier when it is absent. -/
def checkOptional : Option String → Except Fault Unit
  | none => .ok ()
  | some name => checkIdentifier name

end BoundSql.Name
