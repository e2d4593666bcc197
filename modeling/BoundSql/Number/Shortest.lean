import BoundSql.Number.Binary64

/-! The shortest decimal of a binary64 number: of all decimals that read back as the number, one
with the fewest digits, and of those the nearest. -/
namespace BoundSql

/-- The decimal `digits * 10 ^ exponent`. -/
structure Decimal where
  digits : Nat
  exponent : Int
deriving DecidableEq

/-- Which of two equally near decimals is taken. -/
inductive Tie where
  | up
  | even
deriving DecidableEq

namespace Decimal

/-- Compares `d * 10 ^ e` with `a * 2 ^ p`. -/
def compareBinary (d : Nat) (e : Int) (a : Nat) (p : Int) : Ordering :=
  compare (d * power 10 e.toNat * power 2 (-p).toNat) (a * power 2 p.toNat * power 10 (-e).toNat)

/-- Whether `d * 10 ^ e` is rounded to `m * 2 ^ q`: it lies between the halves of the ways to the
two neighbours, on a half only if `m` is even. Below a power of two the way is half as long. -/
def readsBack (m : Nat) (q : Int) (d : Nat) (e : Int) : Bool :=
  let narrow := m = power 2 52 && -1074 < q
  let low := if narrow then 4 * m - 1 else 4 * m - 2
  match compareBinary d e low (q - 2), compareBinary d e (4 * m + 2) (q - 2) with
  | .gt, .lt => true
  | .eq, .lt => m % 2 = 0
  | .gt, .eq => m % 2 = 0
  | _, _ => false

/-- The least `k` with `m * 2 ^ q < 10 ^ k`, for a positive `m`. -/
def scale (m : Nat) (q : Int) : Int :=
  let least := ((m.log2 : Int) + q) * 30103 / 100000
  if compareBinary 1 least m q = .gt then least
  else if compareBinary 1 (least + 1) m q = .gt then least + 1
  else least + 2

/-- Of the two decimals with the given exponent next to `m * 2 ^ q`, the nearer that reads back. -/
def neighbour? (tie : Tie) (m : Nat) (q e : Int) : Option Decimal :=
  let below := m * power 2 q.toNat * power 10 (-e).toNat / (power 2 (-q).toNat * power 10 e.toNat)
  match readsBack m q below e, readsBack m q (below + 1) e with
  | false, false => none
  | true, false => some ⟨below, e⟩
  | false, true => some ⟨below + 1, e⟩
  | true, true =>
    match compareBinary (2 * below + 1) e (2 * m) q, tie with
    | .gt, _ => some ⟨below, e⟩
    | .lt, _ => some ⟨below + 1, e⟩
    | .eq, .up => some ⟨below + 1, e⟩
    | .eq, .even => some ⟨below + below % 2, e⟩

/-- A decimal without zeros at the end of its digits, of which it may have as many as `fuel`. -/
def stripZeros : Nat → Decimal → Decimal
  | 0, d => d
  | fuel + 1, d =>
    if d.digits ≠ 0 ∧ d.digits % 10 = 0 then stripZeros fuel ⟨d.digits / 10, d.exponent + 1⟩ else d

/-- The exact decimal of `m * 2 ^ q`. -/
def exact (m : Nat) (q : Int) : Decimal :=
  ⟨m * power 2 q.toNat * power 5 (-q).toNat, -((-q).toNat : Int)⟩

/-- The shortest decimal that reads back as `m * 2 ^ q`, for a positive `m`. Seventeen digits
suffice for every binary64 number. -/
def shortest (tie : Tie) (m : Nat) (q : Int) : Decimal :=
  let k := scale m q
  let found := (List.range 17).findSome? fun (i : Nat) => neighbour? tie m q (k - (i + 1))
  stripZeros 20 (found.getD (exact m q))

end Decimal
end BoundSql
