import BoundSql.Text.Digits
import BoundSql.Text.Hidden

/-! Quoted text, the form in which a fault names a text that was given to it: every character
can be told from the output, and none leaves the line. -/
namespace BoundSql.Text

/-- How a character stands inside quotes. -/
def quotedChar (c : Char) : String :=
  match c with
  | '\t' => "\\t"
  | '\r' => "\\r"
  | '\n' => "\\n"
  | '\\' => "\\\\"
  | '"' => "\\\""
  | '\x00' => "\\0"
  | c => if isHidden c then "\\u\x7b" ++ hexadecimal c.toNat ++ "\x7d" else String.singleton c

def quoted (s : String) : String :=
  "\"" ++ String.join (s.toList.map quotedChar) ++ "\""

end BoundSql.Text
