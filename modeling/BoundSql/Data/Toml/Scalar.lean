import BoundSql.Data.Node
import BoundSql.Number.Reading

/-! Words of TOML that stand for a value: logical values, numbers, dates and times. -/
namespace BoundSql.Toml

/-- Digits of a base with single underscores between them, the underscores taken out. -/
def digits? (isDigit : Char → Bool) : List Char → Option (List Char)
  | [] => none
  | [c] => if isDigit c then some [c] else none
  | c :: '_' :: rest => if isDigit c then (digits? isDigit rest).map (c :: ·) else none
  | c :: rest => if isDigit c then (digits? isDigit rest).map (c :: ·) else none

/-- Decimal digits with no zero in front of others. -/
def plainDigits? (cs : List Char) : Option (List Char) :=
  match digits? Char.isDigit cs with
  | some ['0'] => some ['0']
  | some ('0' :: _) => none
  | found => found

/-- A whole number of at most 128 bits, with its sign if it is negative. It is readable if 64 bits
can hold it. -/
def whole? (negative : Bool) (n : Nat) : Option Node :=
  if n ≤ if negative then power 2 63 else power 2 64 - 1 then
    some (.whole (if negative then -(n : Int) else n))
  else if n ≤ if negative then power 2 127 else power 2 128 - 1 then some .unreadable
  else none

/-- A number in a base other than ten. -/
def based? (base : Nat) (cs : List Char) : Option Node := do
  let isDigit (c : Char) : Bool := (Text.hexDigit? c).any (· < base)
  let ds ← digits? isDigit cs
  whole? false (Text.valueOf base (ds.map fun c => (Text.hexDigit? c).getD 0))

def fraction? : List Char → Option (List Char)
  | [] => some []
  | '.' :: rest => digits? Char.isDigit rest
  | _ => none

/-- An exponent after its letter. -/
def exponent? (cs : List Char) : Option Int :=
  match cs with
  | '-' :: rest => (digits? Char.isDigit rest).map fun ds => -(Text.natOf ds : Int)
  | '+' :: rest => (digits? Char.isDigit rest).map fun ds => (Text.natOf ds : Int)
  | _ => (digits? Char.isDigit cs).map fun ds => (Text.natOf ds : Int)

/-- A number that is not too large for a real one. -/
def real? (negative : Bool) (n : Numeral) : Option Node :=
  let x := n.value negative Binary64.ofRatio
  if x.isFinite then some (.real x) else none

def decimal? (negative : Bool) (cs : List Char) : Option Node :=
  let mantissa := cs.takeWhile (!Numeral.isExponentMark ·)
  let exponentPart := cs.dropWhile (!Numeral.isExponentMark ·)
  let fractionPart := mantissa.dropWhile (· != '.')
  match plainDigits? (mantissa.takeWhile (· != '.')) with
  | none => none
  | some ds =>
    match fractionPart, exponentPart with
    | [], [] => whole? negative (Text.natOf ds)
    | fractionPart, exponentPart => do
      let fraction ← fraction? fractionPart
      let exponent ← match exponentPart with
        | [] => some 0
        | _ :: rest => exponent? rest
      real? negative ⟨ds, fraction, exponent⟩

/-- A number after its sign or without one. -/
def signed? (negative : Bool) (cs : List Char) : Option Node :=
  match String.ofList cs with
  | "inf" => some (.real (.infinity negative))
  | "nan" => some (.real .nan)
  | _ => decimal? negative cs

/-- A number, of which only a decimal one may have a sign. -/
def number? (cs : List Char) : Option Node :=
  match cs with
  | '+' :: rest => signed? false rest
  | '-' :: rest => signed? true rest
  | '0' :: 'x' :: rest => based? 16 rest
  | '0' :: 'o' :: rest => based? 8 rest
  | '0' :: 'b' :: rest => based? 2 rest
  | cs => signed? false cs

/-- The key under which a date or time reads as a table of one entry. -/
def dateKey : String := "$__toml_private_datetime"

/-- The number that two digits stand for, if it is not above a limit. -/
def pair? (limit : Nat) (a b : Char) : Option Nat :=
  if a.isDigit && b.isDigit then
    let n := Text.natOf [a, b]
    if n ≤ limit then some n else none
  else none

def isLeapYear (year : Nat) : Bool := year % 4 = 0 && (year % 100 ≠ 0 || year % 400 = 0)

def daysOf (year month : Nat) : Nat :=
  if month = 2 then if isLeapYear year then 29 else 28
  else if month = 4 || month = 6 || month = 9 || month = 11 then 30
  else 31

def date? : List Char → Option (String × List Char)
  | y1 :: y2 :: y3 :: y4 :: '-' :: m1 :: m2 :: '-' :: d1 :: d2 :: rest => do
    let year ← Text.nat? [y1, y2, y3, y4]
    let month ← pair? 12 m1 m2
    let day ← pair? 31 d1 d2
    if month = 0 || day = 0 || daysOf year month < day then none
    else return (String.ofList [y1, y2, y3, y4, '-', m1, m2, '-', d1, d2], rest)
  | _ => none

/-- A fraction of a second in front of other characters, of which nine digits count. -/
def secondFraction (cs : List Char) : Option (String × List Char) :=
  match cs with
  | '.' :: rest =>
    let ds := (rest.takeWhile Char.isDigit).take 9
    if ds.isEmpty then none
    else
      let kept := (ds.reverse.dropWhile (· == '0')).reverse
      let kept := if kept.isEmpty then ['0'] else kept
      some ("." ++ String.ofList kept, rest.dropWhile Char.isDigit)
  | _ => some ("", cs)

/-- A time in front of other characters. The seconds may be left out. -/
def time? : List Char → Option (String × List Char)
  | h1 :: h2 :: ':' :: m1 :: m2 :: rest => do
    let _ ← pair? 23 h1 h2
    let _ ← pair? 59 m1 m2
    let minutes := String.ofList [h1, h2, ':', m1, m2]
    match rest with
    | ':' :: s1 :: s2 :: rest =>
      let _ ← pair? 60 s1 s2
      let (fraction, rest) ← secondFraction rest
      return (minutes ++ String.ofList [':', s1, s2] ++ fraction, rest)
    | ':' :: _ => none
    | _ => return (minutes, rest)
  | _ => none

/-- The distance of a time from the zero meridian, up to the end, or none. -/
def offset? : List Char → Option String
  | [] => some ""
  | ['Z'] => some "Z"
  | ['z'] => some "Z"
  | [sign, h1, h2, ':', m1, m2] => do
    let hours ← pair? 23 h1 h2
    let minutes ← pair? 59 m1 m2
    if sign = '+' || hours + minutes = 0 && sign = '-' then
      return "+" ++ String.ofList [h1, h2, ':', m1, m2]
    else if sign = '-' then return "-" ++ String.ofList [h1, h2, ':', m1, m2]
    else none
  | _ => none

/-- A date, a time, or both, and then perhaps an offset. -/
def dateTime? (cs : List Char) : Option String :=
  match date? cs with
  | some (date, []) => some date
  | some (date, separator :: rest) =>
    if separator = 'T' || separator = 't' || separator = ' ' then do
      let (time, rest) ← time? rest
      let offset ← offset? rest
      return date ++ "T" ++ time ++ offset
    else none
  | none =>
    match time? cs with
    | some (time, []) => some time
    | _ => none

/-- What a word stands for as a value. -/
def scalar? (cs : List Char) : Option Node :=
  match String.ofList cs with
  | "true" => some (.bool true)
  | "false" => some (.bool false)
  | _ =>
    match number? cs with
    | some n => some n
    | none => (dateTime? cs).map fun date => .table [(dateKey, .text date)]

end BoundSql.Toml
