import BoundSql.Proofs.Blank
import BoundSql.Proofs.Name

/-! Tame texts, which neither quote, end a statement nor begin a comment, and close exactly the
parentheses that they open. Texts put together from tame ones are tame. -/
namespace BoundSql

/-- The space and the marks of names, lists and comparisons. -/
def tameMarks : List Char := ['_', ' ', '.', ',', '?', '(', ')', '=', '<', '>', '!', '*']

def isTame (c : Char) : Bool := c.isAlphanum || tameMarks.contains c

structure Tame (text : String) : Prop where
  alphabet : ∀ c ∈ text.toList, isTame c
  balanced : text.toList.count ')' = text.toList.count '('
  nested : ∀ n, (text.toList.take n).count ')' ≤ (text.toList.take n).count '('

instance (text : String) : Decidable (Tame text) :=
  decidable_of_iff (text.toList.all isTame ∧
      text.toList.count ')' = text.toList.count '(' ∧
      ∀ n < text.toList.length + 1,
        (text.toList.take n).count ')' ≤ (text.toList.take n).count '(')
    ⟨fun ⟨alphabet, balanced, nested⟩ => ⟨List.all_eq_true.mp alphabet, balanced, fun n => by
        by_cases short : n < text.toList.length + 1
        · exact nested n short
        · rw [List.take_of_length_le (by omega)]
          exact balanced.le⟩,
      fun h => ⟨List.all_eq_true.mpr h.alphabet, h.balanced, fun n _ => h.nested n⟩⟩

namespace Tame

/-- A text without parentheses has nothing to balance. -/
theorem of_plain {text : String} (h : ∀ c ∈ text.toList, isTame c ∧ c ≠ '(' ∧ c ≠ ')') :
    Tame text := by
  have unclosed : ∀ n, (text.toList.take n).count ')' = 0 := fun n =>
    List.count_eq_zero.mpr fun hc => (h ')' (List.mem_of_mem_take hc)).2.2 rfl
  have closed : text.toList.count ')' = 0 :=
    List.count_eq_zero.mpr fun hc => (h ')' hc).2.2 rfl
  have opened : text.toList.count '(' = 0 :=
    List.count_eq_zero.mpr fun hc => (h '(' hc).2.1 rfl
  refine ⟨fun c hc => (h c hc).1, closed.trans opened.symm, fun n => ?_⟩
  rw [unclosed]
  exact Nat.zero_le _

theorem append {a b : String} (ha : Tame a) (hb : Tame b) : Tame (a ++ b) := by
  refine ⟨?_, ?_, fun n => ?_⟩
  · simp only [String.toList_append, List.forall_mem_append]
    exact ⟨ha.alphabet, hb.alphabet⟩
  · simp only [String.toList_append, List.count_append, ha.balanced, hb.balanced]
  · have first := ha.nested n
    have second := hb.nested (n - a.toList.length)
    simp only [String.toList_append, List.take_append, List.count_append]
    omega

theorem intercalate {separator : String} (hs : Tame separator) {texts : List String}
    (h : ∀ text ∈ texts, Tame text) : Tame (separator.intercalate texts) :=
  Text.intercalate_induct (by decide) append hs h

/-- A text in parentheses: whatever part of it is taken has the first of them in front. -/
theorem enclosed {text : String} (h : Tame text) : Tame ("(" ++ text ++ ")") := by
  have chars : ("(" ++ text ++ ")").toList = '(' :: (text.toList ++ [')']) := by simp
  refine ⟨?_, ?_, fun n => ?_⟩
  · rw [chars]
    intro c hc
    simp only [List.mem_cons, List.mem_append, List.not_mem_nil, or_false] at hc
    obtain rfl | hc | rfl := hc
    · decide
    · exact h.alphabet c hc
    · decide
  · have balanced := h.balanced
    simp only [chars, List.count_cons, List.count_append, List.count_nil]
    simp [balanced]
  · rw [chars]
    cases n with
    | zero => simp
    | succ n =>
        have inside := h.nested n
        have last : ([')'].take (n - text.toList.length)).count ')' ≤ 1 :=
          List.count_le_length.trans (List.length_take_le' _ _)
        simp only [List.take_succ_cons, List.take_append, List.count_cons, List.count_append]
        simp
        omega

/-- A parenthesis that one text opens at its end and another closes at its beginning. -/
theorem bracketed {opening closing before text after : String} (h : Tame text)
    (ho : opening = before ++ "(") (hc : closing = ")" ++ after) (hb : Tame before)
    (ha : Tame after) : Tame (opening ++ text ++ closing) := by
  have all := (hb.append h.enclosed).append ha
  rw [ho, hc]
  simpa only [String.append_assoc] using all

theorem opened (text : String) {opening before : String} (h : opening = before ++ "(") :
    text ++ opening = text ++ before ++ "(" := by
  rw [h, String.append_assoc]

theorem bracketed_last {opening before text : String} (h : Tame text)
    (ho : opening = before ++ "(") (hb : Tame before) : Tame (opening ++ text ++ ")") :=
  h.bracketed ho (by decide : ")" = ")" ++ "") hb (by decide)

/-- The only white space of a tame text is the space. -/
theorem trim {text : String} (h : Tame text) : Tame (Text.trim text) := by
  obtain ⟨before, after, parts, hb, ha⟩ := Text.trimmed_between text.toList
  have bare : ∀ cs : List Char, (∀ c ∈ cs, Text.isBlank c) → cs.count '(' = 0 ∧ cs.count ')' = 0 :=
    fun cs blank => ⟨List.count_eq_zero.mpr fun hc => absurd (blank _ hc) (by decide),
      List.count_eq_zero.mpr fun hc => absurd (blank _ hc) (by decide)⟩
  have chars : (Text.trim text).toList = Text.trimmed text.toList := by
    rw [Text.trim, String.toList_ofList]
  obtain ⟨opensBefore, closesBefore⟩ := bare before hb
  refine ⟨fun c hc => ?_, ?_, fun n => ?_⟩
  · rw [chars] at hc
    refine h.alphabet c ?_
    rw [parts]
    exact List.mem_append_left _ (List.mem_append_right _ hc)
  · have balanced := h.balanced
    obtain ⟨opensAfter, closesAfter⟩ := bare after ha
    rw [parts] at balanced
    simp only [List.count_append] at balanced
    rw [chars]
    omega
  -- What is cut off in front opens nothing, so it can be counted with each prefix of the rest.
  · have nested := h.nested (before.length + n)
    obtain ⟨opensAfter, closesAfter⟩ := bare (after.take (n - (Text.trimmed text.toList).length))
      fun c hc => ha c (List.mem_of_mem_take hc)
    rw [parts, List.append_assoc, List.take_length_add_append, List.take_append] at nested
    simp only [List.count_append] at nested
    rw [chars]
    omega

theorem content {text : Option String} (h : ∀ given ∈ text, Tame given) {kept : String}
    (hk : Text.content? text = some kept) : Tame kept := by
  obtain ⟨⟨given, rfl, rfl⟩, -⟩ := Text.content?_eq_some.mp hk
  exact (h given rfl).trim

/-- Characters by which a text could leave its place in a statement. -/
def dangerous : List Char := ['\'', '"', ';', '-', '/', '\\', '\n']

theorem toNat_lt_of_isAlphanum {c : Char} (h : c.isAlphanum) : c.toNat < 128 := by
  have below : ∀ d : Char, d.toNat < 128 → c.val ≤ d.val → c.toNat < 128 := fun d ascii le =>
    Nat.lt_of_le_of_lt (UInt32.le_iff_toNat_le.mp le) ascii
  change ((c.isUpper || c.isLower) || c.isDigit) = true at h
  obtain letter | digit := Bool.or_eq_true_iff.mp h
  · obtain upper | lower := Bool.or_eq_true_iff.mp letter
    · exact below 'Z' (by decide) (of_decide_eq_true upper).2
    · exact below 'z' (by decide) (of_decide_eq_true (Bool.and_eq_true_iff.mp lower).2)
  · exact below '9' (by decide) (of_decide_eq_true (Bool.and_eq_true_iff.mp digit).2)

/-- No character of a tame text is dangerous or beyond ASCII. -/
theorem harmless {text : String} (h : Tame text) :
    ∀ c ∈ text.toList, c ∉ dangerous ∧ c.toNat < 128 := by
  intro c hc
  have tame := h.alphabet c hc
  refine ⟨fun danger => ?_, ?_⟩
  · have wild : dangerous.any isTame = false := by decide
    exact List.any_eq_false.mp wild c danger tame
  · simp only [isTame, Bool.or_eq_true, List.contains_iff_mem] at tame
    obtain letter | mark := tame
    · exact toNat_lt_of_isAlphanum letter
    · have ascii : tameMarks.all (·.toNat < 128) := by decide
      exact of_decide_eq_true (List.all_eq_true.mp ascii c mark)

end Tame

theorem isTame_of_isFollowing {c : Char} (h : Name.isFollowing c) :
    isTame c ∧ c ≠ '(' ∧ c ≠ ')' := by
  refine ⟨?_, ?_, ?_⟩
  · simp only [Name.isFollowing, Bool.or_eq_true, beq_iff_eq] at h
    obtain h | rfl := h
    · simp [isTame, h]
    · decide
  · rintro rfl
    revert h
    decide
  · rintro rfl
    revert h
    decide

theorem tame_of_isIdentifier {name : String} (h : Name.isIdentifier name.toList) : Tame name :=
  .of_plain fun c hc => isTame_of_isFollowing (Name.following_of_isIdentifier h c hc)

theorem tame_of_isColumn {name : String} (h : Name.isColumn name.toList) : Tame name := by
  refine .of_plain fun c hc => ?_
  obtain hc | rfl := Name.characters_of_isColumn h c hc
  · exact isTame_of_isFollowing hc
  · decide

theorem tame_ofNat (n : Nat) : Tame (Text.ofNat n) := by
  refine .of_plain fun c hc => isTame_of_isFollowing ?_
  rw [Text.ofNat, String.toList_ofList] at hc
  have digit := Nat.isDigit_of_mem_toDigits (by decide) (by decide) hc
  simp [Name.isFollowing, Char.isAlphanum, digit]

end BoundSql
