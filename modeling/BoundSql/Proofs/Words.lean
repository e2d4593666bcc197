import BoundSql.Text.Blank
import Mathlib.Data.List.Basic

/-! The words of a text: they are the pieces between its white space, all but the empty ones, and
hold all its other characters. -/
namespace BoundSql.Text

/-- Upper case changes only the characters from `a` to `z`. -/
theorem toUpper_cases (c : Char) :
    c.toUpper = c ∨ 97 ≤ c.toNat ∧ c.toNat ≤ 122 ∧ c.toUpper.toNat + 32 = c.toNat := by
  by_cases lower : 'a'.val ≤ c.val ∧ c.val ≤ 'z'.val
  · have least : 97 ≤ c.toNat := UInt32.le_iff_toNat_le.mp lower.1
    have greatest : c.toNat ≤ 122 := UInt32.le_iff_toNat_le.mp lower.2
    have fall : ('A'.val - 'a'.val).toNat = 4294967264 := by decide
    have raised : c.toUpper.val = c.val + ('A'.val - 'a'.val) :=
      (congrArg Char.val (dif_pos lower)).trans rfl
    have code := congrArg UInt32.toNat raised
    rw [UInt32.toNat_add, fall, Char.toNat_val, Char.toNat_val] at code
    exact .inr ⟨least, greatest, by omega⟩
  · exact .inl (dif_neg lower)

theorem isBlank_toUpper (c : Char) : isBlank c.toUpper = isBlank c := by
  obtain same | ⟨least, greatest, raised⟩ := toUpper_cases c
  · rw [same]
  · have visible : ∀ d : Char, 65 ≤ d.toNat → d.toNat ≤ 122 → isBlank d = false := by
      intro d low high
      simp [isBlank]
      omega
    rw [visible c (by omega) greatest, visible _ (by omega) (by omega)]

/-- The first word is the first piece, which is empty if the text begins with white space. -/
theorem cutWords_pieces (cs : List Char) :
    ∃ later, cs.splitOnP isBlank = (cutWords cs).1 :: later ∧
      later.filter (· ≠ []) = (cutWords cs).2 := by
  induction cs with
  | nil => exact ⟨[], rfl, rfl⟩
  | cons c cs ih =>
      obtain ⟨later, pieces, kept⟩ := ih
      rw [List.splitOnP_cons_eq_if_modifyHead, pieces]
      cases blank : isBlank c with
      | true =>
          refine ⟨(cutWords cs).1 :: later, by simp [cutWords, blank], ?_⟩
          rw [List.filter_cons, kept]
          cases first : (cutWords cs).1 <;> simp [cutWords, blank, first]
      | false => exact ⟨later, by simp [cutWords, blank], by simp [cutWords, blank, ← kept]⟩

/-- The words are the pieces between white space, without the empty ones. -/
theorem words_eq (cs : List Char) : words cs = (cs.splitOnP isBlank).filter (· ≠ []) := by
  obtain ⟨later, pieces, kept⟩ := cutWords_pieces cs
  rw [pieces, List.filter_cons, kept, words]
  cases first : (cutWords cs).1 <;> simp [first]

/-- White space divides the words, and nothing else is to be known of it. -/
theorem words_divided (a b : List Char) {gap : Char} (blank : isBlank gap) :
    words (a ++ gap :: b) = words a ++ words b := by
  rw [words_eq, List.splitOnP_append_cons a b blank, List.filter_append, ← words_eq, ← words_eq]

section Gaps
variable {gap : List Char} (blank : ∀ c ∈ gap, isBlank c)
include blank

theorem words_behind (cs : List Char) : words (gap ++ cs) = words cs := by
  induction gap with
  | nil => rfl
  | cons c gap ih =>
      obtain ⟨first, later⟩ := List.forall_mem_cons.mp blank
      exact (words_divided [] (gap ++ cs) first).trans (ih later)

theorem words_blank : words gap = [] := by
  rw [← List.append_nil gap, words_behind blank]
  rfl

theorem words_between (present : gap ≠ []) (a b : List Char) :
    words (a ++ gap ++ b) = words a ++ words b := by
  obtain ⟨c, gap, rfl⟩ := List.exists_cons_of_ne_nil present
  obtain ⟨first, later⟩ := List.forall_mem_cons.mp blank
  rw [List.append_assoc, List.cons_append, words_divided _ _ first, words_behind later]

theorem words_before (cs : List Char) : words (cs ++ gap) = words cs := by
  cases gap with
  | nil => rw [List.append_nil]
  | cons c gap =>
      rw [← List.append_nil (cs ++ c :: gap), words_between blank (List.cons_ne_nil c gap),
        List.append_right_eq_self]
      rfl

end Gaps

theorem map_intercalate (f : Char → Char) (separator : List Char) (texts : List (List Char)) :
    (separator.intercalate texts).map f = (separator.map f).intercalate (texts.map (·.map f)) := by
  induction texts with
  | nil => rfl
  | cons text rest ih =>
      cases rest with
      | nil => simp
      | cons next more =>
          rw [List.intercalate_cons_cons, List.map_append, List.map_append, ih]
          exact List.intercalate_cons_cons.symm

/-- What leaves white space where it is leaves the words where they are. -/
theorem words_map {f : Char → Char} (same : ∀ c, isBlank (f c) = isBlank c) (cs : List Char) :
    words (cs.map f) = (words cs).map (·.map f) := by
  have cut : cutWords (cs.map f) = ((cutWords cs).1.map f, (cutWords cs).2.map (·.map f)) := by
    induction cs with
    | nil => rfl
    | cons c cs ih =>
        rw [List.map_cons, cutWords, ih, cutWords, same]
        generalize cutWords cs = found
        obtain ⟨_ | ⟨d, word⟩, later⟩ := found <;> cases isBlank c <;> rfl
  rw [words, cut, words]
  generalize cutWords cs = found
  obtain ⟨_ | ⟨d, word⟩, later⟩ := found <;> rfl

variable {c : Char} {cs : List Char}

theorem words_cons_blank (blank : isBlank c) : words (c :: cs) = words cs :=
  words_divided [] cs blank

/-- A character that is no blank is a word of its own, or comes to the first word behind it. -/
theorem words_cons (plain : isBlank c = false) (cs : List Char) :
    words (c :: cs) = [c] :: words cs ∨
      ∃ word later, words cs = word :: later ∧ words (c :: cs) = (c :: word) :: later := by
  cases first : (cutWords cs).1 with
  | nil => exact .inl (by simp [words, cutWords, plain, first])
  | cons d rest =>
      exact .inr ⟨d :: rest, (cutWords cs).2, by simp [words, first],
        by simp [words, cutWords, plain, first]⟩

/-- The words hold all characters that are no white space. -/
theorem flatten_words (cs : List Char) : (words cs).flatten = cs.filter (!isBlank ·) := by
  induction cs with
  | nil => rfl
  | cons c cs ih =>
      cases plain : isBlank c with
      | true => rw [words_cons_blank plain, ih, List.filter_cons_of_neg (by simp [plain])]
      | false =>
          rw [List.filter_cons_of_pos (by simp [plain]), ← ih]
          obtain alone | ⟨word, later, rest, joined⟩ := words_cons plain cs
          · rw [alone, List.flatten_cons, List.singleton_append]
          · rw [rest, joined, List.flatten_cons, List.flatten_cons, List.cons_append]

theorem not_isBlank_of_mem {word : List Char} (member : word ∈ words cs) :
    ∀ c ∈ word, isBlank c = false := by
  intro c inside
  have kept : c ∈ cs.filter (!isBlank ·) := by
    rw [← flatten_words]
    exact List.mem_flatten_of_mem member inside
  simpa using (List.mem_filter.mp kept).2

/-- Two characters next to each other that are no white space are in one word. -/
theorem words_adjacent {x y : Char} (hx : isBlank x = false) (hy : isBlank y = false)
    (before after : List Char) :
    ∃ earlier start rest later,
      words (before ++ x :: y :: after) = earlier ++ ((start ++ [x]) ++ y :: rest) :: later ∧
      earlier.flatten ++ (start ++ [x]) = (before ++ [x]).filter (!isBlank ·) := by
  induction before with
  | nil =>
      refine ⟨[], [], (cutWords after).1, (cutWords after).2, ?_, ?_⟩
      · simp [words, cutWords, hx, hy]
      · simp [hx]
  | cons c before ih =>
      obtain ⟨earlier, start, rest, later, whole, characters⟩ := ih
      cases plain : isBlank c with
      | true =>
          refine ⟨earlier, start, rest, later, (words_cons_blank plain).trans whole, ?_⟩
          rw [characters, List.cons_append, List.filter_cons_of_neg (by simp [plain])]
      | false =>
          rw [List.cons_append, List.cons_append, List.filter_cons_of_pos (by simp [plain]),
            ← characters]
          obtain alone | ⟨word, more, first, joined⟩ :=
            words_cons plain (before ++ x :: y :: after)
          · exact ⟨[c] :: earlier, start, rest, later, by rw [alone, whole]; rfl, rfl⟩
          · rw [whole] at first
            rw [joined]
            cases earlier with
            | nil =>
                obtain ⟨rfl, rfl⟩ := List.cons.inj first
                exact ⟨[], c :: start, rest, later, rfl, rfl⟩
            | cons e earlier =>
                obtain ⟨rfl, rfl⟩ := List.cons.inj first
                exact ⟨(c :: e) :: earlier, start, rest, later, rfl, rfl⟩

end BoundSql.Text
