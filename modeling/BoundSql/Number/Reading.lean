import BoundSql.Number.Binary64
import BoundSql.Text.Digits

/-! Decimal texts read as the nearest binary numbers. -/
namespace BoundSql

/-- A decimal text taken apart: the digits before and after its point, and its exponent. -/
structure Numeral where
  whole : List Char
  fraction : List Char
  exponent : Int

namespace Numeral

/-- An exponent after its letter: a sign or none, then digits. -/
def exponent? (cs : List Char) : Option Int :=
  match cs with
  | '-' :: rest => (Text.nat? rest).map fun n => -(n : Int)
  | '+' :: rest => (Text.nat? rest).map Int.ofNat
  | _ => (Text.nat? cs).map Int.ofNat

def isExponentMark (c : Char) : Bool := c == 'e' || c == 'E'

/-- Digits, a point and more digits, and an exponent; only some digit has to be there. -/
def ofChars? (cs : List Char) : Option Numeral :=
  let mantissa := cs.takeWhile (!isExponentMark ·)
  let whole := mantissa.takeWhile Char.isDigit
  let fraction := match mantissa.dropWhile Char.isDigit with
    | [] => some []
    | '.' :: rest => if rest.all Char.isDigit then some rest else none
    | _ => none
  let exponent := match cs.dropWhile (!isExponentMark ·) with
    | [] => some 0
    | _ :: rest => exponent? rest
  match fraction, exponent with
  | some fraction, some exponent =>
    if whole.isEmpty && fraction.isEmpty then none else some ⟨whole, fraction, exponent⟩
  | _, _ => none

/-- The nearest number, where `round` takes a quotient to the nearest number of a format whose
finite numbers lie within `10 ^ 400` and `10 ^ (-400)`. -/
def value (n : Numeral) (negative : Bool) (round : Bool → Nat → Nat → Binary64) : Binary64 :=
  let digits := Text.natOf (n.whole ++ n.fraction)
  let exponent := n.exponent - (n.fraction.length : Int)
  if digits = 0 then .zero negative
  else if 400 < exponent then .infinity negative
  else if exponent + (digits.log2 : Int) < -400 then .zero negative
  else round negative (digits * power 10 exponent.toNat) (power 10 (-exponent).toNat)

end Numeral

namespace Binary64

/-- A number without a sign: a word for infinity or for no number, or a numeral. -/
def ofMagnitude? (round : Bool → Nat → Nat → Binary64) (negative : Bool) (cs : List Char) :
    Option Binary64 :=
  let word := String.ofList (cs.map Char.toLower)
  if word = "inf" || word = "infinity" then some (infinity negative)
  else if word = "nan" then some nan
  else (Numeral.ofChars? cs).map fun n => n.value negative round

/-- Reads a number with a sign or none, rounded as given. -/
def readWith (round : Bool → Nat → Nat → Binary64) (s : String) : Option Binary64 :=
  match s.toList with
  | '-' :: rest => ofMagnitude? round true rest
  | '+' :: rest => ofMagnitude? round false rest
  | cs => ofMagnitude? round false cs

def ofText? (s : String) : Option Binary64 := readWith ofRatio s

/-- Reads the nearest number of the narrower binary32 format. -/
def ofTextSingle? (s : String) : Option Binary64 := readWith ofRatioSingle s

end Binary64
end BoundSql
