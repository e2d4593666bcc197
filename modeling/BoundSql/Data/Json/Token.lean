import BoundSql.Data.Json.Numeral

/-! JSON texts cut into tokens, one character at a time. -/
namespace BoundSql.Json

/-- The contents of a string so far. A character outside the first plane may be escaped as a pair
of codes, and a code that belongs into such a pair stands for nothing on its own. -/
structure Contents where
  /-- The characters so far, the last one first. -/
  chars : List Char := []
  /-- The first code of a pair whose second one has to follow. -/
  high : Option Nat := none
  /-- Whether every code so far has stood for something. -/
  sound : Bool := true

namespace Contents

def addChar (s : Contents) (c : Char) : Contents :=
  ⟨c :: s.chars, none, s.sound && s.high.isNone⟩

def isHigh (code : Nat) : Bool := 0xD800 ≤ code && code < 0xDC00

def isLow (code : Nat) : Bool := 0xDC00 ≤ code && code < 0xE000

/-- The character of a pair of codes. -/
def ofPair (high low : Nat) : Char :=
  Char.ofNat (0x10000 + (high - 0xD800) * 0x400 + (low - 0xDC00))

def addCode (s : Contents) (code : Nat) : Contents :=
  match s.high with
  | some high =>
    if isLow code then ⟨ofPair high code :: s.chars, none, s.sound⟩ else { s with sound := false }
  | none =>
    if isHigh code then { s with high := some code }
    else if isLow code then { s with sound := false }
    else s.addChar (Char.ofNat code)

/-- The text, unless some code stands for nothing. -/
def text? (s : Contents) : Option String :=
  if s.sound && s.high.isNone then some (String.ofList s.chars.reverse) else none

end Contents

inductive Token where
  | openList
  | closeList
  | openTable
  | closeTable
  | comma
  | colon
  /-- A string, with its text unless that is unreadable. -/
  | text (s : Option String)
  /-- A word or a number. -/
  | scalar (n : Node)

/-- What has been begun at some point of a text. -/
inductive Mode where
  | between
  /-- A word or number, its characters so far in reverse. -/
  | word (chars : List Char)
  | text (s : Contents)
  | escape (s : Contents)
  /-- The digits of a code, as a number, and how many are missing. -/
  | code (s : Contents) (digits : Nat) (missing : Nat)

def isSpace (c : Char) : Bool := c == ' ' || c == '\t' || c == '\n' || c == '\r'

def isWordChar (c : Char) : Bool := c.isAlphanum || c == '-' || c == '+' || c == '.'

def punctuation? (c : Char) : Option Token :=
  match c with
  | '[' => some .openList
  | ']' => some .closeList
  | '{' => some .openTable
  | '}' => some .closeTable
  | ',' => some .comma
  | ':' => some .colon
  | _ => none

def wordToken? (chars : List Char) : Option Token :=
  match String.ofList chars with
  | "null" => some (.scalar .null)
  | "true" => some (.scalar (.bool true))
  | "false" => some (.scalar (.bool false))
  | _ => (Numeral.ofChars? chars).map fun n => .scalar n.node

/-- The character after a backslash that stands for one other character. -/
def unescape? (c : Char) : Option Char :=
  match c with
  | '"' => some '"'
  | '\\' => some '\\'
  | '/' => some '/'
  | 'b' => some '\x08'
  | 'f' => some '\x0c'
  | 'n' => some '\n'
  | 'r' => some '\r'
  | 't' => some '\t'
  | _ => none

/-- Begins with a character outside of words and strings: the token that it is, and what it
begins. -/
def begin? (c : Char) : Option (Option Token × Mode) :=
  if isSpace c then some (none, .between)
  else if c = '"' then some (none, .text ⟨[], none, true⟩)
  else if isWordChar c then some (none, .word [c])
  else (punctuation? c).map fun t => (some t, .between)

/-- Goes on by a character: the tokens that are complete with it, the last one first. -/
def Mode.step? (mode : Mode) (c : Char) (done : List Token) : Option (List Token × Mode) :=
  match mode with
  | between => do
    let (token?, next) ← begin? c
    return (token?.toList ++ done, next)
  | word chars =>
    if isWordChar c then some (done, word (c :: chars))
    else do
      let token ← wordToken? chars.reverse
      let (token?, next) ← begin? c
      return (token?.toList ++ token :: done, next)
  | text s =>
    if c = '"' then some (.text s.text? :: done, between)
    else if c = '\\' then some (done, escape s)
    else if c.toNat < 0x20 then none
    else some (done, text (s.addChar c))
  | escape s =>
    if c = 'u' then some (done, code s 0 4)
    else (unescape? c).map fun c => (done, text (s.addChar c))
  | code s digits missing => do
    let digit ← Text.hexDigit? c
    let digits := digits * 16 + digit
    return (done, if missing ≤ 1 then text (s.addCode digits) else code s digits (missing - 1))

def tokensFrom (mode : Mode) (done : List Token) : List Char → Option (List Token)
  | [] =>
    match mode with
    | .between => some done.reverse
    | .word chars => (wordToken? chars.reverse).map fun t => (t :: done).reverse
    | _ => none
  | c :: rest =>
    match mode.step? c done with
    | some (done, next) => tokensFrom next done rest
    | none => none

def tokens? (s : String) : Option (List Token) := tokensFrom .between [] s.toList

end BoundSql.Json
