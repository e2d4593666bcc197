import BoundSql.Text.Digits
import Mathlib.Data.List.Basic

/-! Numbers in decimal digits, and the numbers that the digits stand for. -/
namespace BoundSql.Text

theorem natOf_toDigits (n : Nat) : natOf (Nat.toDigits 10 n) = n := by
  have same : ∀ cs, natOf cs = Nat.ofDigitChars 10 cs 0 := fun cs => by
    simp only [natOf, valueOf, Nat.ofDigitChars, List.foldl_map, Nat.mul_comm]
  rw [same, Nat.ofDigitChars_toDigits (by decide) (by decide)]

theorem isDigit_of_mem {n : Nat} : ∀ c ∈ Nat.toDigits 10 n, c.isDigit = true :=
  fun _ hc => Nat.isDigit_of_mem_toDigits (by decide) (by decide) hc

theorem apart_of_isDigit {c d : Char} (digit : c.isDigit = true) (other : d.isDigit = false) :
    c ≠ d := by
  rintro rfl
  exact Bool.false_ne_true (other.symm.trans digit)

/-- Further digits come behind the first one and leave it alone. -/
theorem head?_toDigits {n : Nat} (pos : 0 < n) : (Nat.toDigits 10 n).head? ≠ some '0' := by
  induction n using Nat.strongRecOn with
  | ind n ih =>
      by_cases small : n < 10
      · rw [Nat.toDigits_of_lt_base small, List.head?_cons, ne_eq, Option.some.injEq,
          Nat.digitChar_eq_zero]
        omega
      · rw [Nat.toDigits_of_base_le (by decide) (by omega),
          List.head?_append_of_ne_nil _ Nat.toDigits_ne_nil]
        exact ih (n / 10) (by omega) (by omega)

theorem nat?_toDigits (n : Nat) : nat? (Nat.toDigits 10 n) = some n := by
  have digits : (Nat.toDigits 10 n).all Char.isDigit := List.all_eq_true.mpr isDigit_of_mem
  have present : (Nat.toDigits 10 n).isEmpty = false :=
    List.isEmpty_eq_false_iff.mpr Nat.toDigits_ne_nil
  simp [nat?, digits, present, natOf_toDigits]

end BoundSql.Text
