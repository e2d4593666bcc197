import BoundSql.Proofs.Name
import Mathlib.Data.List.Induction

/-! The grammar of names. The checks accept exactly the texts that it derives, and blame every
other text as it was given. -/
namespace BoundSql.Name

/-- The characters from `A` to `Z` and from `a` to `z`, and the underscore. -/
def Initial (c : Char) : Prop :=
  (65 ≤ c.toNat ∧ c.toNat ≤ 90) ∨ (97 ≤ c.toNat ∧ c.toNat ≤ 122) ∨ c = '_'

/-- The characters from `0` to `9`. -/
def Digit (c : Char) : Prop := 48 ≤ c.toNat ∧ c.toNat ≤ 57

/-- An identifier is an initial character, or a shorter identifier with an initial character or a
digit behind it. -/
inductive Identifier : List Char → Prop
  | initial {c : Char} (first : Initial c) : Identifier [c]
  | following {cs : List Char} {c : Char} (shorter : Identifier cs) (next : Initial c ∨ Digit c) :
      Identifier (cs ++ [c])

/-- A column is an identifier, or one that another one qualifies. -/
inductive Column : List Char → Prop
  | bare {cs : List Char} (identifier : Identifier cs) : Column cs
  | qualified {qualifier cs : List Char} (before : Identifier qualifier)
      (identifier : Identifier cs) : Column (qualifier ++ '.' :: cs)

theorem between_iff {low high c : Char} :
    (low ≤ c ∧ c ≤ high) ↔ low.toNat ≤ c.toNat ∧ c.toNat ≤ high.toNat :=
  and_congr UInt32.le_iff_toNat_le UInt32.le_iff_toNat_le

theorem isInitial_iff {c : Char} : isInitial c ↔ Initial c := by
  rw [isInitial, Bool.or_eq_true_iff, isAlpha_iff, between_iff, between_iff, beq_iff_eq, or_assoc]
  rfl

theorem isFollowing_iff {c : Char} : isFollowing c ↔ Initial c ∨ Digit c := by
  have digit : c.isDigit ↔ Digit c := isDigit_iff.trans between_iff
  have mark : c.isAlphanum ↔ c.isAlpha ∨ c.isDigit := Bool.or_eq_true_iff
  rw [← isInitial_iff, ← digit, isFollowing, isInitial, Bool.or_eq_true_iff, Bool.or_eq_true_iff,
    mark]
  exact or_right_comm

/-- The grammar builds from the left what the check reads from the left, so the last character
comes off first. -/
theorem isIdentifier_iff {cs : List Char} : isIdentifier cs ↔ Identifier cs := by
  have last : ∀ {c d : Char} {rest : List Char}, isIdentifier (d :: (rest ++ [c])) ↔
      isIdentifier (d :: rest) ∧ isFollowing c := by
    intro c d rest
    rw [isIdentifier_cons, isIdentifier_cons, List.forall_mem_append, List.forall_mem_singleton,
      and_assoc]
  constructor
  · intro accepted
    induction cs using List.reverseRecOn with
    | nil => exact absurd rfl (ne_nil_of_isIdentifier accepted)
    | append_singleton cs c ih =>
        cases cs with
        | nil =>
            exact .initial (isInitial_iff.mp (isIdentifier_cons.mp accepted).1)
        | cons d rest =>
            obtain ⟨shorter, next⟩ := last.mp accepted
            exact .following (ih shorter) (isFollowing_iff.mp next)
  · intro derived
    induction derived with
    | initial first => exact isIdentifier_cons.mpr ⟨isInitial_iff.mpr first, List.forall_mem_nil _⟩
    | @following cs c _ next ih =>
        cases cs with
        | nil => exact absurd rfl (ne_nil_of_isIdentifier ih)
        | cons d rest => exact last.mpr ⟨ih, isFollowing_iff.mpr next⟩

theorem isColumn_iff_column {cs : List Char} : isColumn cs ↔ Column cs := by
  simp only [isColumn_iff, isIdentifier_iff]
  constructor
  · rintro (bare | ⟨qualifier, name, rfl, before, identifier⟩)
    · exact .bare bare
    · exact .qualified before identifier
  · rintro (bare | ⟨before, identifier⟩)
    · exact .inl bare
    · exact .inr ⟨_, _, rfl, before, identifier⟩

theorem Identifier.dotless {cs : List Char} (derived : Identifier cs) : '.' ∉ cs :=
  dotless_of_isIdentifier (isIdentifier_iff.mpr derived)

/-- The dot behind a qualifier is the only one there is. -/
theorem Identifier.qualified_unique {qualifier name before after : List Char}
    (first : Identifier qualifier) (second : Identifier name)
    (same : qualifier ++ '.' :: name = before ++ '.' :: after) :
    qualifier = before ∧ name = after := by
  obtain ⟨qualifiers, -, names⟩ :=
    (List.append_cons_inj_of_notMem first.dotless second.dotless).mp same
  exact ⟨qualifiers, names⟩

/-- That a check accepts a name exactly if the name has a property, and gives it the blame exactly
if not. -/
structure Recognized (property : Prop) (blame : Fault) (outcome : Except Fault Unit) : Prop where
  accepted : outcome = .ok () ↔ property
  blamed : outcome = .error blame ↔ ¬ property

theorem Recognized.of_test {p : Prop} [Decidable p] {property : Prop} (decided : p ↔ property)
    (blame : Fault) : Recognized property blame (if p then .ok () else .error blame) := by
  rw [← decided]
  constructor <;> by_cases holds : p <;> simp [holds]

/-- The checks recognize the names that the grammar derives, and a column is qualified in one way
at most. -/
theorem checks_recognize (name : String) :
    Recognized (Identifier name.toList) (.invalidIdentifier name) (checkIdentifier name) ∧
      Recognized (Identifier name.toList) (.invalidTableName name) (checkTable name) ∧
      Recognized (Column name.toList) (.invalidIdentifier name) (checkColumn name) ∧
      ∀ qualifier column before after, Identifier qualifier → Identifier column →
        name.toList = qualifier ++ '.' :: column → name.toList = before ++ '.' :: after →
        qualifier = before ∧ column = after := by
  refine ⟨?_, ?_, ?_, ?_⟩
  · exact .of_test isIdentifier_iff _
  · exact .of_test isIdentifier_iff _
  · exact .of_test isColumn_iff_column _
  · intro qualifier column before after first second one other
    exact first.qualified_unique second (one.symm.trans other)

example : checkColumn "u.id\n" = .error (.invalidIdentifier "u.id\n") := by decide

end BoundSql.Name
