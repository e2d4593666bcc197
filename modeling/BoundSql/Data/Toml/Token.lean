import BoundSql.Text.Digits

/-! TOML texts cut into tokens. Comments leave no token, and a string is a token with its text. -/
namespace BoundSql.Toml

inductive Token where
  | newline
  /-- Spaces and tabs, and whether it is a single space. -/
  | blank (single : Bool)
  | equals
  | dot
  | comma
  | openBracket
  | closeBracket
  | openBrace
  | closeBrace
  | word (chars : List Char)
  /-- A string, and whether it may go over several lines, which no key may. -/
  | text (s : String) (multiline : Bool)
deriving DecidableEq

/-- Whether a character may stand in comments and strings. -/
def isPrintable (c : Char) : Bool := c == '\t' || (0x20 ≤ c.toNat && c.toNat != 0x7F)

def isWordEnd (c : Char) : Bool :=
  c == ' ' || c == '\t' || c == '\n' || c == '\r' || c == '=' || c == '.' || c == ',' ||
    c == '[' || c == ']' || c == '{' || c == '}' || c == '#' || c == '"' || c == '\''

def isSpace (c : Char) : Bool := c == ' ' || c == '\t'

/-- The character of a code, of which so many hexadecimal digits are written. -/
def code? (cs : List Char) (count : Nat) : Option (Char × List Char) := do
  let written := cs.take count
  let values ← written.mapM Text.hexDigit?
  let n := Text.valueOf 16 values
  if written.length = count && n.isValidChar then return (Char.ofNat n, cs.drop count) else none

/-- The character that is escaped after a backslash. -/
def escape? : List Char → Option (Char × List Char)
  | 'b' :: rest => some ('\x08', rest)
  | 't' :: rest => some ('\t', rest)
  | 'n' :: rest => some ('\n', rest)
  | 'f' :: rest => some ('\x0c', rest)
  | 'r' :: rest => some ('\r', rest)
  | 'e' :: rest => some ('\x1b', rest)
  | '"' :: rest => some ('"', rest)
  | '\\' :: rest => some ('\\', rest)
  | 'x' :: rest => code? rest 2
  | 'u' :: rest => code? rest 4
  | 'U' :: rest => code? rest 8
  | _ => none

/-- What follows a backslash at the end of a line, without the white space up to the next other
character. -/
def afterLineEnd? (cs : List Char) : Option (List Char) :=
  let rest := cs.dropWhile isSpace
  match rest with
  | '\n' :: rest => some (rest.dropWhile fun c => isSpace c || c == '\n' || c == '\r')
  | '\r' :: '\n' :: rest => some (rest.dropWhile fun c => isSpace c || c == '\n' || c == '\r')
  | _ => none

/-- The rest of a string on one line. Escapes are read if `escapes` is set, as they are between
double quotes. -/
def lineText (quote : Char) (escapes : Bool) :
    Nat → List Char → List Char → Option (String × List Char)
  | 0, _, _ => none
  | _, _, [] => none
  | fuel + 1, done, c :: rest =>
    if c = quote then some (String.ofList done.reverse, rest)
    else if escapes && c = '\\' then
      match escape? rest with
      | some (c, rest) => lineText quote escapes fuel (c :: done) rest
      | none => none
    else if isPrintable c then lineText quote escapes fuel (c :: done) rest
    else none

/-- The rest of a string over several lines, which ends at three quotes. One or two quotes more
belong to the string. -/
def blockText (quote : Char) (escapes : Bool) :
    Nat → List Char → List Char → Option (String × List Char)
  | 0, _, _ => none
  | _, _, [] => none
  | fuel + 1, done, c :: rest =>
    if c = quote && rest.take 2 = [quote, quote] then
      let more := ((rest.drop 2).take 2).takeWhile (· == quote)
      some (String.ofList (more ++ done).reverse, rest.drop (2 + more.length))
    else if escapes && c = '\\' then
      match escape? rest with
      | some (c, rest) => blockText quote escapes fuel (c :: done) rest
      | none =>
        match afterLineEnd? rest with
        | some rest => blockText quote escapes fuel done rest
        | none => none
    else if c = '\r' then
      if rest.head? = some '\n' then blockText quote escapes fuel (c :: done) rest else none
    else if c = '\n' || isPrintable c then blockText quote escapes fuel (c :: done) rest
    else none

/-- A string over several lines does not hold the line end right after its opening quotes. -/
def withoutLineEnd : List Char → List Char
  | '\n' :: rest => rest
  | '\r' :: '\n' :: rest => rest
  | cs => cs

def text? (quote : Char) (escapes : Bool) (fuel : Nat) (rest : List Char) :
    Option (Token × List Char) :=
  if rest.take 2 = [quote, quote] then
    (blockText quote escapes fuel [] (withoutLineEnd (rest.drop 2))).map fun (s, rest) =>
      (.text s true, rest)
  else (lineText quote escapes fuel [] rest).map fun (s, rest) => (.text s false, rest)

/-- What stands after a comment, up to the end of its line. -/
def afterComment? (cs : List Char) : Option (List Char) :=
  let rest := cs.dropWhile isPrintable
  match rest with
  | [] => some []
  | c :: _ => if c = '\n' || c = '\r' then some rest else none

/-- The tokens of a text, given at least as much fuel as there are characters, and one more. -/
def tokensWithin : Nat → List Char → Option (List Token)
  | 0, _ => none
  | _, [] => some []
  | fuel + 1, c :: rest =>
    match c with
    | '\n' => (tokensWithin fuel rest).map (.newline :: ·)
    | '\r' =>
      match rest with
      | '\n' :: rest => (tokensWithin fuel rest).map (.newline :: ·)
      | _ => none
    | '=' => (tokensWithin fuel rest).map (.equals :: ·)
    | '.' => (tokensWithin fuel rest).map (.dot :: ·)
    | ',' => (tokensWithin fuel rest).map (.comma :: ·)
    | '[' => (tokensWithin fuel rest).map (.openBracket :: ·)
    | ']' => (tokensWithin fuel rest).map (.closeBracket :: ·)
    | '{' => (tokensWithin fuel rest).map (.openBrace :: ·)
    | '}' => (tokensWithin fuel rest).map (.closeBrace :: ·)
    | '#' => (afterComment? rest).bind (tokensWithin fuel)
    | '"' => (text? '"' true fuel rest).bind fun (t, rest) => (tokensWithin fuel rest).map (t :: ·)
    | '\'' =>
      (text? '\'' false fuel rest).bind fun (t, rest) => (tokensWithin fuel rest).map (t :: ·)
    | c =>
      if isSpace c then
        let more := rest.takeWhile isSpace
        (tokensWithin fuel (rest.dropWhile isSpace)).map
          (.blank (c == ' ' && more.isEmpty) :: ·)
      else
        (tokensWithin fuel (rest.dropWhile (!isWordEnd ·))).map
          (.word (c :: rest.takeWhile (!isWordEnd ·)) :: ·)

/-- The tokens of a text, which may begin with a byte order mark. -/
def tokens? (s : String) : Option (List Token) :=
  let cs := match s.toList with
    | '\ufeff' :: rest => rest
    | cs => cs
  tokensWithin (cs.length + 1) cs

end BoundSql.Toml
