import BoundSql.Number.Shortest
import BoundSql.Text.Digits

/-! Real numbers as text: where the point stands, and when an exponent is written. -/
namespace BoundSql

/-- The decisions of one written form of real numbers. -/
structure Layout where
  /-- Which of two equally near shortest decimals is written. -/
  tie : Tie
  /-- Whether a number of the given scientific exponent is written without one. -/
  positional : Int → Bool
  /-- What follows a whole number. -/
  wholeMark : String

namespace Layout

/-- The form of SQL literals: never an exponent, and a whole number without a point. -/
def plain : Layout where
  tie := .up
  positional := fun _ => true
  wholeMark := ""

/-- The form of JSON: an exponent below `-5` and from `16` on, and otherwise a point. -/
def exchange : Layout where
  tie := .even
  positional := fun e => -5 ≤ e && e < 16
  wholeMark := ".0"

/-- A decimal without an exponent. -/
def positionalText (wholeMark : String) (digits : List Char) (exponent : Int) : String :=
  let point := (digits.length : Int) + exponent
  if 0 ≤ exponent then
    String.ofList (digits ++ List.replicate exponent.toNat '0') ++ wholeMark
  else if point ≤ 0 then
    "0." ++ String.ofList (List.replicate (-point).toNat '0' ++ digits)
  else
    String.ofList (digits.take point.toNat ++ '.' :: digits.drop point.toNat)

/-- A decimal with one digit before the point and a signed exponent. -/
def scientificText (digits : List Char) (exponent : Int) : String :=
  let mantissa := match digits with
    | [] => "0"
    | [d] => String.singleton d
    | d :: rest => String.ofList (d :: '.' :: rest)
  mantissa ++ "e" ++ (if exponent < 0 then "" else "+") ++ Text.ofInt exponent

/-- A finite number, without its sign. -/
def magnitude (layout : Layout) (m : Nat) (q : Int) : String :=
  if m = 0 then "0" ++ layout.wholeMark
  else
    let d := Decimal.shortest layout.tie m q
    let digits := Nat.toDigits 10 d.digits
    let scientific := d.exponent + (digits.length : Int) - 1
    if layout.positional scientific then positionalText layout.wholeMark digits d.exponent
    else scientificText digits scientific

def render (layout : Layout) (x : Binary64) : String :=
  match x.view with
  | .nan => "NaN"
  | .infinite negative => if negative then "-inf" else "inf"
  | .finite negative m q => (if negative then "-" else "") ++ layout.magnitude m q

end Layout
end BoundSql
