import BoundSql.Data.Node
import BoundSql.Number.Reading

/-! Numbers in JSON. A number without point and exponent is whole when sixty-four bits can hold
it. Any other one is real: its digits are taken as far as they fit into sixty-four bits, and the
remaining power of ten is multiplied on or divided off, with rounding at each step. -/
namespace BoundSql.Json

/-- A number as it is written: its sign, the digits before and after its point, and its exponent
with that one's sign. -/
structure Numeral where
  negative : Bool
  whole : List Char
  fraction : Option (List Char)
  exponent : Option (Bool × List Char)
deriving DecidableEq

namespace Numeral

/-- Digits before the point: at least one, and no zero in front of others. -/
def isWholePart (cs : List Char) : Bool :=
  match cs with
  | [] => false
  | [c] => c.isDigit
  | c :: rest => c.isDigit && c != '0' && rest.all Char.isDigit

def isDigits (cs : List Char) : Bool := !cs.isEmpty && cs.all Char.isDigit

/-- An exponent after its letter. -/
def exponent? : List Char → Option (Bool × List Char)
  | '-' :: rest => if isDigits rest then some (true, rest) else none
  | '+' :: rest => if isDigits rest then some (false, rest) else none
  | cs => if isDigits cs then some (false, cs) else none

def ofChars? (cs : List Char) : Option Numeral :=
  let (negative, cs) := match cs with
    | '-' :: rest => (true, rest)
    | cs => (false, cs)
  let mantissa := cs.takeWhile (!BoundSql.Numeral.isExponentMark ·)
  let whole := mantissa.takeWhile (· != '.')
  let fraction? := match mantissa.dropWhile (· != '.') with
    | [] => some none
    | _ :: rest => if isDigits rest then some (some rest) else none
  let exponent? := match cs.dropWhile (!BoundSql.Numeral.isExponentMark ·) with
    | [] => some none
    | _ :: rest => (exponent? rest).map some
  match fraction?, exponent? with
  | some fraction, some exponent =>
    if isWholePart whole then some ⟨negative, whole, fraction, exponent⟩ else none
  | _, _ => none

/-- The digits that have been taken, as a number below `2 ^ 64`, and the power of ten by which it
is to be multiplied. -/
structure Scaled where
  significand : Nat
  exponent : Int

/-- Takes digits before the point. Once one does not fit, it and all later ones only count. -/
def takeWhole (n : Nat) : List Char → Scaled
  | [] => ⟨n, 0⟩
  | c :: rest =>
    let next := n * 10 + (c.toNat - '0'.toNat)
    if next < power 2 64 then takeWhole next rest else ⟨n, (c :: rest).length⟩

/-- Takes digits after the point. Once one does not fit, it and all later ones are left out. -/
def takeFraction (s : Scaled) : List Char → Scaled
  | [] => s
  | c :: rest =>
    let next := s.significand * 10 + (c.toNat - '0'.toNat)
    if next < power 2 64 then takeFraction ⟨next, s.exponent - 1⟩ rest else s

/-- A positive finite number as `m * 2 ^ q`. -/
abbrev Finite := Nat × Int

/-- The nearest number to a quotient of numbers, if it is finite. -/
def round? (num den : Nat) : Option Finite :=
  match (Binary64.ofRatio false num den).view with
  | .finite _ m q => some (m, q)
  | _ => none

/-- The nearest number to a power of ten that lies below `10 ^ 309`. -/
def powerOfTen (k : Nat) : Finite := (round? (power 10 k) 1).getD (0, 0)

def times? (a b : Finite) : Option Finite :=
  let q := a.2 + b.2
  round? (a.1 * b.1 * power 2 q.toNat) (power 2 (-q).toNat)

def over? (a b : Finite) : Option Finite :=
  let q := a.2 - b.2
  round? (a.1 * power 2 q.toNat) (b.1 * power 2 (-q).toNat)

/-- Multiplies a power of ten on or divides it off. Large powers are divided off in steps, of
which the third leaves zero; large powers cannot be multiplied on. -/
def scale? : Nat → Finite → Int → Option Finite
  | 0, _, _ => some (0, 0)
  | steps + 1, a, e =>
    if e.natAbs ≤ 308 then
      if 0 ≤ e then times? a (powerOfTen e.natAbs) else over? a (powerOfTen e.natAbs)
    else if a.1 = 0 then some a
    else if 0 ≤ e then none
    else (over? a (powerOfTen 308)).bind fun b => scale? steps b (e + 308)

/-- A number that is not zero has no exponent of `2 ^ 31` or more; a zero has any. -/
def addExponent? (s : Scaled) : Option (Bool × List Char) → Option Scaled
  | none => some s
  | some (negative, digits) =>
    let e := Text.natOf digits
    if e < power 2 31 then some ⟨s.significand, if negative then s.exponent - e else s.exponent + e⟩
    else if s.significand ≠ 0 && !negative then none
    else some ⟨0, 0⟩

/-- The real number that is written, if it is in range. -/
def real? (n : Numeral) : Option Binary64 := do
  let s ← addExponent? (takeFraction (takeWhole 0 n.whole) (n.fraction.getD [])) n.exponent
  let start ← round? s.significand 1
  let (m, q) ← scale? 4 start s.exponent
  return .ofScaled n.negative m q

/-- What a number stands for. A whole number has at most sixty-four bits, with its sign if it is
negative; the negative zero is real. -/
def node (n : Numeral) : Node :=
  let value := Text.natOf n.whole
  let isWhole := n.fraction.isNone && n.exponent.isNone &&
    if n.negative then 0 < value && value ≤ power 2 63 else value < power 2 64
  if isWhole then .whole (if n.negative then -(value : Int) else value)
  else
    match n.real? with
    | some x => .real x
    | none => .unreadable

end Numeral
end BoundSql.Json
