import BoundSql.Data.Json.Token
import BoundSql.Proofs.Digits
import Mathlib.Data.List.TakeWhile

/-! Whole numbers as they are printed, which are words of JSON and stand for themselves. -/
namespace BoundSql.Json
open Text

theorem isWholePart_toDigits (n : Nat) : Numeral.isWholePart (Nat.toDigits 10 n) := by
  have digits := isDigit_of_mem (n := n)
  have first := head?_toDigits (n := n)
  by_cases small : n < 10
  · rw [Nat.toDigits_of_lt_base small] at digits ⊢
    exact digits _ List.mem_cons_self
  · rw [Nat.toDigits_of_base_le (by decide) (by omega)] at digits first ⊢
    cases front : Nat.toDigits 10 (n / 10) with
    | nil => exact absurd front Nat.toDigits_ne_nil
    | cons c rest =>
        rw [front] at digits first
        have nonzero : c ≠ '0' := fun zero => first (by omega) (by rw [zero]; rfl)
        obtain ⟨digit, later⟩ := List.forall_mem_cons.mp digits
        have rest' : (rest ++ [(n % 10).digitChar]).all Char.isDigit := List.all_eq_true.mpr later
        cases tail : rest ++ [(n % 10).digitChar] with
        | nil => simp at tail
        | cons next more =>
            rw [tail] at rest'
            simp [Numeral.isWholePart, tail, digit, nonzero, rest']

/-- Digits without point and exponent are all of the number. -/
theorem ofChars?_digits {cs : List Char} (whole : Numeral.isWholePart cs)
    (digits : ∀ c ∈ cs, c.isDigit = true) :
    Numeral.ofChars? cs = some ⟨false, cs, none, none⟩ ∧
      Numeral.ofChars? ('-' :: cs) = some ⟨true, cs, none, none⟩ := by
  have unmarked : ∀ c ∈ cs, (!BoundSql.Numeral.isExponentMark c) = true := fun c hc => by
    simp [BoundSql.Numeral.isExponentMark, apart_of_isDigit (digits c hc)]
  have unpointed : ∀ c ∈ cs, (c != '.') = true := fun c hc =>
    bne_iff_ne.mpr (apart_of_isDigit (digits c hc) (by decide))
  constructor
  · unfold Numeral.ofChars?
    split
    rename_i negative kept parted
    split at parted
    · exact absurd rfl (apart_of_isDigit (digits '-' List.mem_cons_self) (by decide))
    · cases parted
      simp [List.takeWhile_eq_self_iff.mpr unmarked, List.takeWhile_eq_self_iff.mpr unpointed,
        List.dropWhile_eq_nil_iff.mpr unmarked, List.dropWhile_eq_nil_iff.mpr unpointed, whole]
  · simp [Numeral.ofChars?, List.takeWhile_eq_self_iff.mpr unmarked,
      List.takeWhile_eq_self_iff.mpr unpointed, List.dropWhile_eq_nil_iff.mpr unmarked,
      List.dropWhile_eq_nil_iff.mpr unpointed, whole]

theorem node_digits {negative : Bool} {n : Nat}
    (range : if negative then 0 < n ∧ n ≤ 9223372036854775808 else n ≤ 18446744073709551615) :
    Numeral.node ⟨negative, Nat.toDigits 10 n, none, none⟩ =
      .whole (if negative then -(n : Int) else n) := by
  have limits : power 2 63 = 9223372036854775808 ∧ power 2 64 = 18446744073709551616 := by decide
  cases negative with
  | true =>
      obtain ⟨pos, small⟩ : 0 < n ∧ n ≤ 9223372036854775808 := range
      simp [Numeral.node, natOf_toDigits, limits, pos, small]
  | false =>
      have small : n < 18446744073709551616 := Nat.lt_succ_of_le range
      simp [Numeral.node, natOf_toDigits, limits, small]

theorem wordToken?_numeral {cs : List Char} {n : Numeral} (h : Numeral.ofChars? cs = some n) :
    wordToken? cs = some (.scalar n.node) := by
  have word : ∀ text : String, Numeral.ofChars? text.toList = none → String.ofList cs ≠ text := by
    rintro _ other rfl
    rw [String.toList_ofList, h] at other
    cases other
  unfold wordToken?
  split
  · exact absurd ‹_› (word "null" (by decide))
  · exact absurd ‹_› (word "true" (by decide))
  · exact absurd ‹_› (word "false" (by decide))
  · rw [h]
    rfl

theorem wordToken?_ofInt {n : Int} (low : -9223372036854775808 ≤ n)
    (high : n ≤ 18446744073709551615) :
    wordToken? (Text.ofInt n).toList = some (.scalar (.whole n)) := by
  cases n with
  | ofNat n =>
      have number := (ofChars?_digits (isWholePart_toDigits n) isDigit_of_mem).1
      rw [Text.ofInt, Text.ofNat, String.toList_ofList, wordToken?_numeral number,
        node_digits (by simp at high ⊢; omega)]
      rfl
  | negSucc n =>
      have number := (ofChars?_digits (isWholePart_toDigits (n + 1)) isDigit_of_mem).2
      have chars : ("-" ++ Text.ofNat (n + 1)).toList = '-' :: Nat.toDigits 10 (n + 1) := by
        simp [Text.ofNat]
      rw [Text.ofInt, chars, wordToken?_numeral number, node_digits (by simp; omega)]
      rfl

theorem isWordChar_ofInt (n : Int) : (Text.ofInt n).toList.all isWordChar := by
  have digits : ∀ n, (Text.ofNat n).toList.all isWordChar := fun n => by
    rw [Text.ofNat, String.toList_ofList, List.all_eq_true]
    intro c hc
    simp [isWordChar, Char.isAlphanum, isDigit_of_mem c hc]
  cases n with
  | ofNat n => exact digits n
  | negSucc n =>
      rw [Text.ofInt, String.toList_append, List.all_append, digits, Bool.and_true]
      decide

end BoundSql.Json
