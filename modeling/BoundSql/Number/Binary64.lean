import BoundSql.Number.Power

/-! Binary64 numbers as their bits, and exact rounding of a quotient of natural numbers to the
nearest of them. -/
namespace BoundSql

/-- A number of the binary64 format, held as its sixty-four bits. -/
structure Binary64 where
  bits : UInt64
deriving DecidableEq

namespace Binary64

/-- What the bits of a number stand for; a finite one is `m * 2 ^ q`, negated if so marked. -/
inductive View where
  | nan
  | infinite (negative : Bool)
  | finite (negative : Bool) (m : Nat) (q : Int)
deriving DecidableEq

def view (x : Binary64) : View :=
  let n := x.bits.toNat
  let negative := n / power 2 63 == 1
  let biased : Nat := n / power 2 52 % power 2 11
  let fraction := n % power 2 52
  if biased = 2047 then if fraction = 0 then .infinite negative else .nan
  else if biased = 0 then .finite negative fraction (-1074)
  else .finite negative (fraction + power 2 52) ((biased : Int) - 1075)

def isFinite (x : Binary64) : Bool :=
  match x.view with
  | .finite _ _ _ => true
  | _ => false

/-- The number with the given sign whose other bits are the given ones. -/
def ofParts (negative : Bool) (magnitude : Nat) : Binary64 :=
  ⟨UInt64.ofNat (if negative then power 2 63 + magnitude else magnitude)⟩

def nan : Binary64 := ofParts false (2047 * power 2 52 + power 2 51)

def infinity (negative : Bool) : Binary64 := ofParts negative (2047 * power 2 52)

def zero (negative : Bool) : Binary64 := ofParts negative 0

/-- The number `m * 2 ^ q` for an `m` of at most fifty-three bits (or `2 ^ 53`) and a `q` that is
at least `-1074`; what lies past the largest finite number is infinite. -/
def ofScaled (negative : Bool) (m : Nat) (q : Int) : Binary64 :=
  if m = 0 then zero negative
  else
    let shift : Int := min (52 - (m.log2 : Int)) (q + 1074)
    let m' := m * power 2 shift.toNat / power 2 (-shift).toNat
    let biased := (q - shift + 1075).toNat
    if m' < power 2 52 then ofParts negative m'
    else if 2047 ≤ biased then infinity negative
    else ofParts negative (biased * power 2 52 + (m' - power 2 52))

/-- The whole number nearest to a quotient; a half goes to the even neighbour. -/
def roundDiv (num den : Nat) : Nat :=
  let whole := num / den
  let rest := num % den
  if 2 * rest < den then whole else if den < 2 * rest then whole + 1 else whole + whole % 2

/-- The exponent `e` with `2 ^ e ≤ num / den < 2 ^ (e + 1)`. -/
def floorLog2 (num den : Nat) : Int :=
  let e : Int := (num.log2 : Int) - (den.log2 : Int)
  if den * power 2 e.toNat ≤ num * power 2 (-e).toNat then e else e - 1

/-- The nearest `m * 2 ^ q` to a quotient among those with `m` of at most `width` bits and `q` at
least `least`. -/
def nearest (width : Nat) (least : Int) (num den : Nat) : Nat × Int :=
  let q := max (floorLog2 num den - ((width : Int) - 1)) least
  (roundDiv (num * power 2 (-q).toNat) (den * power 2 q.toNat), q)

/-- The nearest number to a quotient. -/
def ofRatio (negative : Bool) (num den : Nat) : Binary64 :=
  if num = 0 then zero negative
  else
    let (m, q) := nearest 53 (-1074) num den
    ofScaled negative m q

/-- The nearest binary32 number to a quotient, which every binary64 number can hold. -/
def ofRatioSingle (negative : Bool) (num den : Nat) : Binary64 :=
  if num = 0 then zero negative
  else
    let (m, q) := nearest 24 (-149) num den
    if power 2 128 ≤ m * power 2 q.toNat then infinity negative else ofScaled negative m q

def ofInt (n : Int) : Binary64 := ofRatio (n < 0) n.natAbs 1

end Binary64
end BoundSql
