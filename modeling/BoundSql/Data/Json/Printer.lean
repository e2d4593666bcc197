import BoundSql.Data.Node
import BoundSql.Number.Layout

/-! Trees written as JSON, on one line or indented by two spaces for each level. -/
namespace BoundSql.Json

/-- The escape of a character in a string, if it has one. -/
def escape? (c : Char) : Option String :=
  match c with
  | '"' => some "\\\""
  | '\\' => some "\\\\"
  | '\x08' => some "\\b"
  | '\x0c' => some "\\f"
  | '\n' => some "\\n"
  | '\r' => some "\\r"
  | '\t' => some "\\t"
  | c =>
    if c.toNat < 0x20 then
      let digits := Text.hexadecimal c.toNat
      some ("\\u" ++ (if c.toNat < 0x10 then "000" else "00") ++ digits)
    else none

def string (s : String) : String :=
  "\"" ++ String.join (s.toList.map fun c => (escape? c).getD (String.singleton c)) ++ "\""

/-- A number that is finite, and otherwise the null value. -/
def number (x : Binary64) : String :=
  if x.isFinite then Layout.exchange.render x else "null"

/-- A piece without parts. -/
def scalar : Node → String
  | .null => "null"
  | .bool b => if b then "true" else "false"
  | .whole n => Text.ofInt n
  | .real x => number x
  | .text s => string s
  | _ => "null"

mutual

def compact : Node → String
  | .list items => "[" ++ ",".intercalate (compactAll items) ++ "]"
  | .table entries => "\x7b" ++ ",".intercalate (compactEntries entries) ++ "\x7d"
  | n => scalar n

def compactAll : List Node → List String
  | [] => []
  | n :: rest => compact n :: compactAll rest

def compactEntries : List (String × Node) → List String
  | [] => []
  | (key, n) :: rest => (string key ++ ":" ++ compact n) :: compactEntries rest

end

/-- Parts on lines of their own between brackets, which stand alone if there are none. -/
def bracketed (opening closing : String) (level : Nat) (parts : List String) : String :=
  let line (level : Nat) : String := "\n" ++ String.ofList (List.replicate (2 * level) ' ')
  if parts.isEmpty then opening ++ closing
  else
    opening ++ line (level + 1) ++ ("," ++ line (level + 1)).intercalate parts ++ line level ++
      closing

mutual

/-- A tree over several lines, at a level of indentation. -/
def pretty (level : Nat) : Node → String
  | .list items => bracketed "[" "]" level (prettyAll (level + 1) items)
  | .table entries => bracketed "\x7b" "\x7d" level (prettyEntries (level + 1) entries)
  | n => scalar n

def prettyAll (level : Nat) : List Node → List String
  | [] => []
  | n :: rest => pretty level n :: prettyAll level rest

def prettyEntries (level : Nat) : List (String × Node) → List String
  | [] => []
  | (key, n) :: rest => (string key ++ ": " ++ pretty level n) :: prettyEntries level rest

end

end BoundSql.Json
