import BoundSql.Proofs.Digits
import BoundSql.Proofs.Words
import BoundSql.Proofs.Batch.Insert
import BoundSql.Proofs.Reread.Reader
import BoundSql.Proofs.Shape.Condition

/-! Literals that are read as the values that they were written for, whatever text follows them,
unless it would lengthen them. -/
namespace BoundSql.Literal

/-- Characters that lengthen neither a word nor a text in quotes. -/
def Apart (rest : List Char) : Prop := ∀ c ∈ rest.head?, Name.isFollowing c = false ∧ c ≠ '\''

theorem apart_nil : Apart [] := nofun

theorem apart_cons {c : Char} (other : Name.isFollowing c = false ∧ c ≠ '\'') (rest : List Char) :
    Apart (c :: rest) := by
  rintro _ ⟨⟩
  exact other

section Tokens

variable {rest : List Char}

/-- A character that completes no token only leads to another place. -/
theorem tokensFrom_on {p q : Place} {c : Char} (on : p.step c = ([], q)) :
    tokensFrom p (c :: rest) = tokensFrom q rest := by
  rw [tokensFrom, on]
  exact Option.map_id_apply

/-- That a text is cut into tokens in front of other characters. -/
abbrev Cut (text rest : List Char) (ts : List Token) : Prop :=
  tokensFrom .between (text ++ rest) = (tokensFrom .between rest).map (ts ++ ·)

theorem Cut.append {a b : List Char} {ts us : List Token} (ha : Cut a (b ++ rest) ts)
    (hb : Cut b rest us) : Cut (a ++ b) rest (ts ++ us) := by
  unfold Cut at ha hb ⊢
  rw [List.append_assoc, ha, hb, Option.map_map]
  congr 1
  funext more
  exact (List.append_assoc ts us more).symm

theorem cut_mark {c : Char} (mark : Place.start c = ([.mark c], .between)) :
    Cut [c] rest [.mark c] := by
  rw [Cut, List.singleton_append, tokensFrom, Place.step, mark]

theorem cut_blank : Cut [' '] rest [] := by
  have on : Place.step .between ' ' = ([], .between) := by decide
  rw [Cut, List.singleton_append, tokensFrom_on on]
  exact Option.map_id_apply.symm

/-- A token ends before whatever does not lengthen it. -/
theorem tokensFrom_ended {p : Place} (late : ∀ c, Name.isFollowing c = false ∧ c ≠ '\'' →
      p.step c = (p.ended ++ (Place.start c).1, (Place.start c).2))
    (closed : tokensFrom p [] = some p.ended) (apart : Apart rest) :
    tokensFrom p rest = (tokensFrom .between rest).map (p.ended ++ ·) := by
  cases rest with
  | nil => simp [closed, tokensFrom, Place.ended]
  | cons c rest =>
      rw [tokensFrom, tokensFrom, late c (apart c rfl), Option.map_map, Place.step]
      congr 1
      funext more
      exact List.append_assoc _ _ _

theorem tokensFrom_word {cs : List Char} (following : ∀ c ∈ cs, Name.isFollowing c)
    (taken : List Char) :
    tokensFrom (.word taken) (cs ++ rest) = tokensFrom (.word (cs.reverse ++ taken)) rest := by
  induction cs generalizing taken with
  | nil => rfl
  | cons c cs ih =>
      obtain ⟨first, later⟩ := List.forall_mem_cons.mp following
      have on : Place.step (.word taken) c = ([], .word (c :: taken)) := if_pos first
      rw [List.cons_append, tokensFrom_on on, ih later, List.reverse_cons, List.append_assoc]
      rfl

theorem cut_word {cs : List Char} (present : cs ≠ []) (following : ∀ c ∈ cs, Name.isFollowing c)
    (apart : Apart rest) : Cut cs rest [.word cs] := by
  cases cs with
  | nil => exact absurd rfl present
  | cons c cs =>
      obtain ⟨first, later⟩ := List.forall_mem_cons.mp following
      have on : Place.step .between c = ([], .word [c]) := by
        have unquoted : c ≠ '\'' := by
          rintro rfl
          cases first
        rw [Place.step, Place.start, if_neg unquoted, if_pos first]
      have late : ∀ d, Name.isFollowing d = false ∧ d ≠ '\'' →
          Place.step (.word (cs.reverse ++ [c])) d =
            (Place.ended (.word (cs.reverse ++ [c])) ++ (Place.start d).1, (Place.start d).2) := by
        rintro d ⟨other, -⟩
        rw [Place.step, other]
        rfl
      rw [Cut, List.cons_append, tokensFrom_on on, tokensFrom_word later,
        tokensFrom_ended late rfl apart]
      simp [Place.ended]

theorem tokensFrom_quoted (cs taken : List Char) :
    tokensFrom (.text taken) (Value.quoteChars cs ++ '\'' :: rest) =
      tokensFrom (.quote (cs.reverse ++ taken)) rest := by
  have stop : ∀ taken, Place.step (.text taken) '\'' = ([], .quote taken) := fun _ => rfl
  induction cs generalizing taken with
  | nil => exact tokensFrom_on (stop taken)
  | cons c cs ih =>
      rw [Value.quoteChars, List.reverse_cons, List.append_assoc]
      by_cases quote : c = '\''
      · have goOn : Place.step (.quote taken) '\'' = ([], .text ('\'' :: taken)) := rfl
        rw [if_pos quote, List.cons_append, List.cons_append, tokensFrom_on (stop taken),
          tokensFrom_on goOn, ih, quote]
        rfl
      · have on : Place.step (.text taken) c = ([], .text (c :: taken)) := by
          rw [Place.step, if_neg quote]
        rw [if_neg quote, List.cons_append, tokensFrom_on on, ih]
        rfl

/-- A quote inside a text is written twice, so that only the last one ends it. -/
theorem cut_text (s : String) (apart : Apart rest) :
    Cut (Value.textLiteral s).toList rest [.text s] := by
  have chars : (Value.textLiteral s).toList ++ rest =
      '\'' :: (Value.quoteChars s.toList ++ '\'' :: rest) := by simp [Value.textLiteral]
  have on : Place.step .between '\'' = ([], .text []) := by decide
  have late : ∀ d, Name.isFollowing d = false ∧ d ≠ '\'' →
      Place.step (.quote (s.toList.reverse ++ [])) d =
        (Place.ended (.quote (s.toList.reverse ++ [])) ++ (Place.start d).1,
          (Place.start d).2) := by
    rintro d ⟨-, unquoted⟩
    rw [Place.step, if_neg unquoted]
  rw [Cut, chars, tokensFrom_on on, tokensFrom_quoted, tokensFrom_ended late rfl apart]
  simp [Place.ended]

end Tokens

/-- What reading goes on to from a state. -/
def readFrom (s : State) (cs : List Char) : Option State := (tokensFrom .between cs).bind s.run

theorem readFrom_cut {text rest : List Char} {ts : List Token} (cut : Cut text rest ts)
    (s : State) :
    readFrom s (text ++ rest) = (s.run ts).bind fun next => readFrom next rest := by
  unfold readFrom
  rw [cut]
  cases tokensFrom .between rest with
  | none => simp
  | some more => simp [State.run, List.foldlM_append]

section Values

variable {s : State} {rest : List Char}

theorem open_iff : s.isOpen ↔ s.due = .value ∨ s.due = .valueOrEnd := by
  simp [State.isOpen]

/-- A word where a value is due. -/
theorem readFrom_word {cs : List Char} {v : Value} (present : cs ≠ [])
    (following : ∀ c ∈ cs, Name.isFollowing c) (value : word? cs = some v) (isOpen : s.isOpen)
    (apart : Apart rest) : readFrom s (cs ++ rest) = readFrom (s.supply v) rest := by
  have taken : s.run [.word cs] = some (s.supply v) := by
    obtain due | due := open_iff.mp isOpen <;>
      simp [State.run, State.step, due, State.isOpen, value]
  rw [readFrom_cut (cut_word present following apart), taken, Option.bind_some]

theorem isFollowing_of_digits {n : Nat} : ∀ c ∈ Nat.toDigits 10 n, Name.isFollowing c := by
  intro c hc
  simp [Name.isFollowing, Char.isAlphanum, Text.isDigit_of_mem c hc]

theorem toUpper_of_isDigit {c : Char} (h : c.isDigit) : c.toUpper = c := by
  simp only [Char.isDigit, Bool.and_eq_true, decide_eq_true_eq, UInt32.le_iff_toNat_le] at h
  have high : c.toNat ≤ 57 := h.2
  refine (Text.toUpper_cases c).resolve_right ?_
  rintro ⟨least, -, -⟩
  omega

/-- Digits are no keyword. -/
theorem word?_digits (n : Nat) :
    word? (Nat.toDigits 10 n) = integer? false (Nat.toDigits 10 n) := by
  have upper : (Nat.toDigits 10 n).map Char.toUpper = Nat.toDigits 10 n := by
    conv_rhs => rw [← List.map_id (Nat.toDigits 10 n)]
    exact List.map_congr_left fun c hc => toUpper_of_isDigit (Text.isDigit_of_mem c hc)
  have other : ∀ keyword : String, (∃ c ∈ keyword.toList, c.isDigit = false) →
      isKeyword keyword (Nat.toDigits 10 n) = false := by
    rintro keyword ⟨c, hc, letter⟩
    rw [isKeyword, upper, beq_eq_false_iff_ne]
    intro same
    rw [Text.isDigit_of_mem c (same ▸ hc)] at letter
    cases letter
  rw [word?, other "NULL" ⟨'N', by decide, by decide⟩, other "TRUE" ⟨'T', by decide, by decide⟩,
    other "FALSE" ⟨'F', by decide, by decide⟩]
  rfl

theorem integer?_digits {negative : Bool} {n : Nat} {value : Int64}
    (is : value.toInt = if negative then -(n : Int) else n) :
    integer? negative (Nat.toDigits 10 n) = some (.integer value) := by
  have low := value.le_toInt
  have high := value.toInt_lt
  rw [integer?, Text.nat?_toDigits, Option.bind_some]
  simp only [← is]
  rw [if_pos (by omega), Int64.ofInt_toInt]

theorem readFrom_integer (n : Int64) (isOpen : s.isOpen) (apart : Apart rest) :
    readFrom s ((Text.ofInt n.toInt).toList ++ rest) = readFrom (s.supply (.integer n)) rest := by
  cases value : n.toInt with
  | ofNat k =>
      have read : word? (Nat.toDigits 10 k) = some (.integer n) := by
        rw [word?_digits]
        exact integer?_digits value
      rw [Text.ofInt, Text.ofNat, String.toList_ofList]
      exact readFrom_word Nat.toDigits_ne_nil isFollowing_of_digits read isOpen apart
  | negSucc k =>
      have read : integer? true (Nat.toDigits 10 (k + 1)) = some (.integer n) :=
        integer?_digits value
      have chars : (Text.ofInt (.negSucc k)).toList = ['-'] ++ Nat.toDigits 10 (k + 1) := by
        simp [Text.ofInt, Text.ofNat]
      have cut := (cut_mark (c := '-') (by decide)).append
        (cut_word Nat.toDigits_ne_nil (isFollowing_of_digits (n := k + 1)) apart)
      have taken : s.run [.mark '-', .word (Nat.toDigits 10 (k + 1))] =
          some (s.supply (.integer n)) := by
        simp [State.run, State.step, isOpen, read, State.supply]
      rw [chars, readFrom_cut cut, List.singleton_append, taken, Option.bind_some]

theorem readFrom_text (t : String) (isOpen : s.isOpen) (apart : Apart rest) :
    readFrom s ((Value.textLiteral t).toList ++ rest) = readFrom (s.supply (.text t)) rest := by
  have taken : s.run [.text t] = some (s.supply (.text t)) := by
    simp [State.run, State.step, isOpen]
  rw [readFrom_cut (cut_text t apart), taken, Option.bind_some]

/-- A value whose literal is read as the value, wherever a value may begin. -/
def Reads (v : Value) : Prop :=
  ∀ s rest, State.isOpen s → Apart rest →
    readFrom s (v.literal.toList ++ rest) = readFrom (s.supply v) rest

/-- Values with commas between them become items one after the other. -/
theorem readFrom_items {v : Value} {items : List Value} (each : ∀ item ∈ v :: items, Reads item)
    (isOpen : s.isOpen) (apart : Apart rest) :
    readFrom s ((", ".intercalate ((v :: items).map Value.literal)).toList ++ rest) =
      readFrom ⟨.separator, s.items ++ v :: items, s.outer⟩ rest := by
  induction items generalizing v s with
  | nil =>
      rw [List.map_singleton, String.intercalate_singleton]
      exact each v List.mem_cons_self s rest isOpen apart
  | cons next items ih =>
      obtain ⟨first, later⟩ := List.forall_mem_cons.mp each
      have chars : (", ".intercalate ((v :: next :: items).map Value.literal)).toList ++ rest =
          v.literal.toList ++ (([','] ++ [' ']) ++
            ((", ".intercalate ((next :: items).map Value.literal)).toList ++ rest)) := by
        simp [String.intercalate_cons_cons]
      have comma : ∀ more, Cut ([','] ++ [' ']) more [.mark ','] := fun more =>
        (cut_mark (by decide)).append cut_blank
      have due : State.run (s.supply v) [.mark ','] = some ⟨.value, s.items ++ [v], s.outer⟩ := rfl
      have apartComma : ∀ more, Apart (([','] ++ [' ']) ++ more) := fun more =>
        apart_cons (by decide) _
      rw [chars, first s _ isOpen (apartComma _), readFrom_cut (comma _), due, Option.bind_some,
        ih later rfl]
      simp

theorem reads_list {items : List Value} (each : ∀ item ∈ items, Reads item) :
    Reads (.list items) := by
  intro s rest isOpen apart
  have chars : (Value.list items).literal.toList ++ rest =
      ['('] ++ ((", ".intercalate (items.map Value.literal)).toList ++ ([')'] ++ rest)) := by
    simp [Value.literal, Insert.literals_eq]
  have opened : s.run [.mark '('] = some ⟨.valueOrEnd, [], s.items :: s.outer⟩ := by
    simp [State.run, State.step, isOpen]
  have closes : ∀ due, due = .separator ∨ due = .valueOrEnd →
      readFrom ⟨due, items, s.items :: s.outer⟩ ([')'] ++ rest) =
        readFrom (s.supply (.list items)) rest := by
    intro due ended
    have closed : State.run ⟨due, items, s.items :: s.outer⟩ [.mark ')'] =
        some (s.supply (.list items)) := by
      obtain rfl | rfl := ended <;> rfl
    rw [readFrom_cut (cut_mark (by decide)), closed, Option.bind_some]
  rw [chars, readFrom_cut (cut_mark (by decide)), opened, Option.bind_some]
  cases items with
  | nil => exact closes .valueOrEnd (.inr rfl)
  | cons v items =>
      have apartEnd : Apart ([')'] ++ rest) := apart_cons (by decide) _
      rw [readFrom_items (s := ⟨.valueOrEnd, [], s.items :: s.outer⟩) each rfl apartEnd]
      exact closes .separator (.inl rfl)

theorem reads_keyword {v : Value} (present : v.literal.toList ≠ [])
    (following : v.literal.toList.all Name.isFollowing = true)
    (value : word? v.literal.toList = some v) : Reads v :=
  fun _ _ => readFrom_word present (List.all_eq_true.mp following) value

mutual

/-- Every value is read from its literal, unless it is real or holds a real number. -/
theorem reads_literal : ∀ v : Value, v.isRealFree → Reads v
  | .null, _ => reads_keyword (by decide) (by decide) rfl
  | .bool true, _ => reads_keyword (by decide) (by decide) rfl
  | .bool false, _ => reads_keyword (by decide) (by decide) rfl
  | .integer n, _ => fun _ _ => readFrom_integer n
  | .text t, _ => fun _ _ => readFrom_text t
  | .list items, free => reads_list (reads_literals items free)

theorem reads_literals :
    ∀ items : List Value, Value.realFreeAll items → ∀ item ∈ items, Reads item
  | [], _ => List.forall_mem_nil _
  | v :: rest, free => by
      rw [Value.realFreeAll, Bool.and_eq_true] at free
      exact List.forall_mem_cons.mpr ⟨reads_literal v free.1, reads_literals rest free.2⟩

end

end Values

end BoundSql.Literal
