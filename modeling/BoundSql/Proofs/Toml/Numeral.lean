import BoundSql.Data.Toml.Scalar
import BoundSql.Proofs.Digits
import Mathlib.Data.List.TakeWhile

/-! Whole numbers in decimal digits, which TOML reads as themselves. -/
namespace BoundSql.Toml
open Text

theorem digits?_digits {cs : List Char} (present : cs ≠ [])
    (digits : ∀ c ∈ cs, c.isDigit = true) : digits? Char.isDigit cs = some cs := by
  induction cs with
  | nil => exact absurd rfl present
  | cons c rest ih =>
      obtain ⟨first, later⟩ := List.forall_mem_cons.mp digits
      cases rest with
      | nil => rw [digits?, if_pos first]
      | cons next more =>
          have joined : next ≠ '_' := apart_of_isDigit (later next List.mem_cons_self) (by decide)
          rw [digits?, if_pos first, ih (by simp) later]
          · rfl
          · simp
          · rintro _ ⟨⟩
            exact joined rfl

theorem plainDigits?_toDigits (n : Nat) :
    plainDigits? (Nat.toDigits 10 n) = some (Nat.toDigits 10 n) := by
  rw [plainDigits?, digits?_digits Nat.toDigits_ne_nil isDigit_of_mem]
  split
  · exact Eq.symm ‹_›
  · rename_i rest other same
    have front : Nat.toDigits 10 n = '0' :: rest := Option.some.inj same
    rcases Nat.eq_zero_or_pos n with rfl | pos
    · exact absurd (List.cons.inj front).2.symm other
    · exact absurd (congrArg List.head? front) (head?_toDigits pos)
  · rfl

theorem decimal?_toDigits {n : Nat} (bounded : n < UInt64.size) :
    decimal? false (Nat.toDigits 10 n) = some (.whole n) := by
  have limit : power 2 64 = UInt64.size := by decide
  have unmarked : ∀ c ∈ Nat.toDigits 10 n, (!Numeral.isExponentMark c) = true := fun c hc => by
    simp [Numeral.isExponentMark, apart_of_isDigit (isDigit_of_mem c hc)]
  have unpointed : ∀ c ∈ Nat.toDigits 10 n, (c != '.') = true := fun c hc =>
    bne_iff_ne.mpr (apart_of_isDigit (isDigit_of_mem c hc) (by decide))
  have fits : n ≤ power 2 64 - 1 := by omega
  simp [decimal?, List.takeWhile_eq_self_iff.mpr unmarked, List.takeWhile_eq_self_iff.mpr unpointed,
    List.dropWhile_eq_nil_iff.mpr unmarked, List.dropWhile_eq_nil_iff.mpr unpointed,
    plainDigits?_toDigits, natOf_toDigits, whole?, fits]

/-- A text that begins with a digit is none that begins otherwise. -/
theorem ofList_ne {c : Char} {more : List Char} {word : String} (digit : c.isDigit = true)
    (begins : word.toList.head?.any Char.isDigit = false) : String.ofList (c :: more) ≠ word := by
  rintro rfl
  rw [String.toList_ofList] at begins
  exact Bool.false_ne_true (begins.symm.trans digit)

theorem scalar?_toDigits {n : Nat} (bounded : n < UInt64.size) :
    scalar? (Nat.toDigits 10 n) = some (.whole n) := by
  have read := decimal?_toDigits bounded
  have digits := isDigit_of_mem (n := n)
  obtain ⟨c, more, parted⟩ := List.exists_cons_of_ne_nil (Nat.toDigits_ne_nil (n := n) (b := 10))
  rw [parted] at read digits ⊢
  obtain ⟨first, later⟩ := List.forall_mem_cons.mp digits
  have signed : signed? false (c :: more) = some (.whole n) := by
    unfold signed?
    split
    · exact absurd ‹_› (ofList_ne first (by decide))
    · exact absurd ‹_› (ofList_ne first (by decide))
    · exact read
  have behind : ∀ {d : Char} {rest : List Char}, d.isDigit = false → more ≠ d :: rest := by
    rintro d rest other rfl
    exact apart_of_isDigit (later d List.mem_cons_self) other rfl
  have number : number? (c :: more) = some (.whole n) := by
    unfold number?
    split
    · exact absurd (List.cons.inj ‹_›).1 (apart_of_isDigit first (by decide))
    · exact absurd (List.cons.inj ‹_›).1 (apart_of_isDigit first (by decide))
    · exact absurd (List.cons.inj ‹_›).2 (behind (by decide))
    · exact absurd (List.cons.inj ‹_›).2 (behind (by decide))
    · exact absurd (List.cons.inj ‹_›).2 (behind (by decide))
    · exact signed
  unfold scalar?
  split
  · exact absurd ‹_› (ofList_ne first (by decide))
  · exact absurd ‹_› (ofList_ne first (by decide))
  · rw [number]

end BoundSql.Toml
