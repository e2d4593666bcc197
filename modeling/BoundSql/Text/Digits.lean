/-! Numbers written in decimal and hexadecimal digits, and digits read back. -/
namespace BoundSql.Text

/-- A natural number in decimal digits, without leading zeros. -/
def ofNat (n : Nat) : String := String.ofList (Nat.toDigits 10 n)

/-- An integer in decimal digits, a minus sign in front of a negative one. -/
def ofInt : Int → String
  | .ofNat n => ofNat n
  | .negSucc n => "-" ++ ofNat (n + 1)

/-- A natural number in lower-case hexadecimal digits, without leading zeros. -/
def hexadecimal (n : Nat) : String := String.ofList (Nat.toDigits 16 n)

/-- The value of a hexadecimal digit, of either case. -/
def hexDigit? (c : Char) : Option Nat :=
  if c.isDigit then some (c.toNat - '0'.toNat)
  else if 'a' ≤ c && c ≤ 'f' then some (c.toNat - 'a'.toNat + 10)
  else if 'A' ≤ c && c ≤ 'F' then some (c.toNat - 'A'.toNat + 10)
  else none

/-- The number that digits of a base stand for, each digit given by its value. -/
def valueOf (base : Nat) (digits : List Nat) : Nat :=
  digits.foldl (fun n d => n * base + d) 0

/-- The number that decimal digits stand for. Only digits may be given. -/
def natOf (digits : List Char) : Nat :=
  valueOf 10 (digits.map fun c => c.toNat - '0'.toNat)

/-- A text of at least one decimal digit and nothing else, as a number. -/
def nat? (cs : List Char) : Option Nat :=
  if !cs.isEmpty && cs.all Char.isDigit then some (natOf cs) else none

end BoundSql.Text
