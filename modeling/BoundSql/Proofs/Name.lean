import BoundSql.Name
import BoundSql.Proofs.Outcome
import BoundSql.Proofs.Regex
import BoundSql.Proofs.Split

/-! What an accepted name consists of. -/
namespace BoundSql.Name
open Outcome

/-- An ASCII letter or the underscore. -/
def isInitial (c : Char) : Bool := c.isAlpha || c == '_'

/-- An ASCII letter, an ASCII digit or the underscore. -/
def isFollowing (c : Char) : Bool := c.isAlphanum || c == '_'

theorem isFollowing_of_isInitial {c : Char} (h : isInitial c) : isFollowing c := by
  simp only [isInitial, isFollowing, Char.isAlphanum, Bool.or_eq_true] at h ⊢
  exact h.imp .inl id

section Classes
variable {c : Char}

theorem isAlpha_iff : c.isAlpha ↔ ('A' ≤ c ∧ c ≤ 'Z') ∨ ('a' ≤ c ∧ c ≤ 'z') :=
  Bool.or_eq_true_iff.trans (or_congr decide_eq_true_iff
    (Bool.and_eq_true_iff.trans (and_congr decide_eq_true_iff decide_eq_true_iff)))

theorem isDigit_iff : c.isDigit ↔ '0' ≤ c ∧ c ≤ '9' :=
  Bool.and_eq_true_iff.trans (and_congr decide_eq_true_iff decide_eq_true_iff)

theorem between_self {d : Char} : (d ≤ c ∧ c ≤ d) ↔ c = d := by
  constructor
  · rintro ⟨low, high⟩
    exact Char.le_antisymm high low
  · rintro rfl
    exact ⟨Char.le_refl c, Char.le_refl c⟩

theorem holds_initials : initials.holds c ↔ isInitial c := by
  have ranges : initials.holds c ↔
      ('A' ≤ c ∧ c ≤ 'Z') ∨ ('a' ≤ c ∧ c ≤ 'z') ∨ ('_' ≤ c ∧ c ≤ '_') := by
    simp [initials, Regex.Class.holds]
  rw [ranges, isInitial, Bool.or_eq_true_iff, isAlpha_iff, beq_iff_eq, between_self, or_assoc]

theorem holds_followings : followings.holds c ↔ isFollowing c := by
  have ranges : followings.holds c ↔ ('A' ≤ c ∧ c ≤ 'Z') ∨ ('a' ≤ c ∧ c ≤ 'z') ∨
      ('0' ≤ c ∧ c ≤ '9') ∨ ('_' ≤ c ∧ c ≤ '_') := by
    simp [followings, Regex.Class.holds]
  have mark : c.isAlphanum ↔ c.isAlpha ∨ c.isDigit := Bool.or_eq_true_iff
  rw [ranges, isFollowing, Bool.or_eq_true_iff, mark, isAlpha_iff, isDigit_iff, beq_iff_eq,
    between_self]
  simp only [or_assoc]

end Classes

/-- Between its anchors the pattern of identifiers takes the whole text. -/
theorem isIdentifier_iff_cons {cs : List Char} : isIdentifier cs ↔
    ∃ c rest, cs = c :: rest ∧ isInitial c ∧ ∀ d ∈ rest, isFollowing d := by
  rw [isIdentifier, Regex.isMatch_iff]
  simp only [pattern, Regex.takes_start, Regex.takes_one, Regex.takes_many_finish, holds_initials,
    holds_followings]
  constructor
  · rintro ⟨_, _, _, rfl, rfl, c, rest, rfl, first, all, rfl⟩
    exact ⟨c, rest, List.append_nil _, first, all⟩
  · rintro ⟨c, rest, rfl, first, all⟩
    exact ⟨[], c :: rest, [], (List.append_nil _).symm, rfl, c, rest, rfl, first, all, rfl⟩

theorem isIdentifier_cons {c : Char} {rest : List Char} :
    isIdentifier (c :: rest) ↔ isInitial c ∧ ∀ d ∈ rest, isFollowing d := by
  rw [isIdentifier_iff_cons]
  constructor
  · rintro ⟨_, _, same, first, all⟩
    cases same
    exact ⟨first, all⟩
  · rintro ⟨first, all⟩
    exact ⟨c, rest, rfl, first, all⟩

theorem following_of_isIdentifier {cs : List Char} (h : isIdentifier cs) :
    ∀ c ∈ cs, isFollowing c := by
  obtain ⟨c, rest, rfl, first, all⟩ := isIdentifier_iff_cons.mp h
  exact List.forall_mem_cons.mpr ⟨isFollowing_of_isInitial first, all⟩

theorem ne_nil_of_isIdentifier {cs : List Char} (h : isIdentifier cs) : cs ≠ [] := by
  obtain ⟨c, rest, rfl, -⟩ := isIdentifier_iff_cons.mp h
  exact List.cons_ne_nil c rest

theorem dotless_of_isIdentifier {cs : List Char} (h : isIdentifier cs) : '.' ∉ cs :=
  fun dot => absurd (following_of_isIdentifier h _ dot) (by decide)

/-- A column is an identifier, or two with a dot between them. An identifier holds no dot, so the
dot of a column is the only one. -/
theorem isColumn_iff {cs : List Char} :
    isColumn cs ↔
      isIdentifier cs ∨ ∃ a b, cs = a ++ '.' :: b ∧ isIdentifier a ∧ isIdentifier b := by
  have parted : ∀ {a b : List Char}, '.' ∉ a →
      (isColumn (a ++ '.' :: b) ↔ isIdentifier a ∧ isIdentifier b) := by
    intro a b free
    rw [isColumn, Text.splitUpTo_append 0 free]
    simp [Text.splitUpTo]
  constructor
  · intro h
    obtain free | ⟨a, b, free, rfl⟩ := Text.free_or_divided '.' cs
    · rw [isColumn, Text.splitUpTo_whole 1 free] at h
      exact .inl (by simpa using h)
    · exact .inr ⟨a, b, rfl, (parted free).mp h⟩
  · rintro (h | ⟨a, b, rfl, ha, hb⟩)
    · rw [isColumn, Text.splitUpTo_whole 1 (dotless_of_isIdentifier h)]
      simpa using h
    · exact (parted (dotless_of_isIdentifier ha)).mpr ⟨ha, hb⟩

theorem characters_of_isColumn {cs : List Char} (h : isColumn cs) :
    ∀ c ∈ cs, isFollowing c ∨ c = '.' := by
  intro c hc
  obtain h | ⟨a, b, rfl, ha, hb⟩ := isColumn_iff.mp h
  · exact .inl (following_of_isIdentifier h c hc)
  · simp only [List.mem_append, List.mem_cons] at hc
    obtain hc | rfl | hc := hc
    · exact .inl (following_of_isIdentifier ha c hc)
    · exact .inr rfl
    · exact .inl (following_of_isIdentifier hb c hc)

theorem ne_nil_of_isColumn {cs : List Char} (h : isColumn cs) : cs ≠ [] := by
  obtain h | ⟨a, b, rfl, -, -⟩ := isColumn_iff.mp h
  · exact ne_nil_of_isIdentifier h
  · simp

theorem checkIdentifier_ok {name : String} {u : Unit} :
    checkIdentifier name = .ok u ↔ isIdentifier name.toList := by
  simp [checkIdentifier]

theorem checkTable_ok {name : String} {u : Unit} :
    checkTable name = .ok u ↔ isIdentifier name.toList := by
  simp [checkTable]

theorem checkColumn_ok {name : String} {u : Unit} :
    checkColumn name = .ok u ↔ isColumn name.toList := by
  simp [checkColumn]

theorem checkIdentifiers_ok {names : List String} {u : Unit} :
    checkIdentifiers names = .ok u ↔ ∀ name ∈ names, isIdentifier name.toList := by
  induction names with
  | nil => simp [checkIdentifiers]
  | cons name rest ih =>
      rw [checkIdentifiers, bind_ok, List.forall_mem_cons, ← ih]
      constructor
      · rintro ⟨u, hname, hrest⟩
        exact ⟨checkIdentifier_ok.mp hname, hrest⟩
      · rintro ⟨hname, hrest⟩
        exact ⟨(), checkIdentifier_ok.mpr hname, hrest⟩

theorem checkOptional_ok {label : Option String} {u : Unit} :
    checkOptional label = .ok u ↔ ∀ name ∈ label, isIdentifier name.toList := by
  cases label with
  | none => simp [checkOptional]
  | some name => simp [checkOptional, checkIdentifier_ok]

end BoundSql.Name
