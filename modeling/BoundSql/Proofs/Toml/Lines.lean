import BoundSql.Data.Toml.Reader
import BoundSql.Proofs.Toml.Numeral

/-! Files of whole numbers under plain keys, a line each, with comments and empty lines among them.
Such a file is read as the table of its numbers. -/
namespace BoundSql.Toml
open Text

/-- A line of such a file. -/
inductive Line where
  | comment (text : String)
  | empty
  | number (key : String) (n : Nat)

namespace Line

def text : Line → String
  | comment text => "#" ++ text ++ "\n"
  | empty => "\n"
  | number key n => key ++ " = " ++ ofNat n ++ "\n"

def tokens : Line → List Token
  | number key n =>
    [.word key.toList, .blank true, .equals, .blank true, .word (Nat.toDigits 10 n), .newline]
  | _ => [.newline]

def entry? : Line → Option (String × Nat)
  | number key n => some (key, n)
  | _ => none

/-- A comment without control characters, or a number that sixty-four bits hold under a key that
needs no quotes. -/
def IsPlain : Line → Prop
  | comment text => ∀ c ∈ text.toList, isPrintable c = true
  | empty => True
  | number key n => key.toList ≠ [] ∧ (∀ c ∈ key.toList, isKeyChar c = true) ∧ n < UInt64.size

end Line

/-- The text of a file. -/
def textOf (lines : List Line) : String := String.join (lines.map Line.text)

/-- The numbers of a file, with their keys. -/
def numbersOf (lines : List Line) : List (String × Nat) := lines.filterMap Line.entry?

section Tokens

/-- Characters that are cut into tokens, whatever is behind them, with no more fuel than there are
characters. -/
def Cuts (cs : List Char) (ts : List Token) : Prop :=
  ∃ cost ≤ cs.length, ∀ fuel rest,
    tokensWithin (fuel + cost) (cs ++ rest) = (tokensWithin fuel rest).map (ts ++ ·)

variable {cs rest : List Char} {c : Char} {ts us : List Token}

theorem Cuts.append {ds : List Char} (first : Cuts cs ts) (second : Cuts ds us) :
    Cuts (cs ++ ds) (ts ++ us) := by
  obtain ⟨cost, bound, cuts⟩ := first
  obtain ⟨later, bound', cuts'⟩ := second
  refine ⟨later + cost, by rw [List.length_append]; omega, fun fuel rest => ?_⟩
  rw [← Nat.add_assoc, List.append_assoc, cuts, cuts', Option.map_map]
  congr 1
  funext more
  exact (List.append_assoc ts us more).symm

theorem isSpace_of_isWordEnd (inner : isWordEnd c = false) : isSpace c = false := by
  simp only [isWordEnd, Bool.or_eq_false_iff] at inner
  simp only [isSpace, inner, Bool.or_self]

/-- A run of characters stops in front of one that is none of them. -/
theorem run_stops {p : Char → Bool} (stops : rest.head?.any p = false) :
    rest.takeWhile p = [] ∧ rest.dropWhile p = rest := by
  cases rest with
  | nil => exact ⟨rfl, rfl⟩
  | cons c later =>
      have stop : p c = false := stops
      simp only [List.takeWhile_cons, List.dropWhile_cons, stop, Bool.false_eq_true, if_false,
        and_self]

theorem tokensWithin_word (present : cs ≠ []) (inner : ∀ c ∈ cs, isWordEnd c = false)
    (ends : rest.head?.any (!isWordEnd ·) = false) (fuel : Nat) :
    tokensWithin (fuel + 1) (cs ++ rest) = (tokensWithin fuel rest).map (.word cs :: ·) := by
  obtain ⟨c, more, rfl⟩ := List.exists_cons_of_ne_nil present
  obtain ⟨start, inside⟩ := List.forall_mem_cons.mp inner
  have kept : ∀ d ∈ more, (!isWordEnd d) = true := fun d hd => by rw [inside d hd]; rfl
  obtain ⟨nothing, all⟩ := run_stops ends
  rw [List.cons_append, tokensWithin]
  · rw [isSpace_of_isWordEnd start, List.takeWhile_append_of_pos kept,
      List.dropWhile_append_of_pos kept, nothing, all, List.append_nil]
    rfl
  -- A word begins with none of the characters that are tokens of their own.
  all_goals
    rintro rfl
    exact absurd start (by decide)

theorem tokensWithin_space (follows : rest.head?.any isSpace = false) (fuel : Nat) :
    tokensWithin (fuel + 1) (' ' :: rest) = (tokensWithin fuel rest).map (.blank true :: ·) := by
  simp only [tokensWithin, run_stops follows]
  rfl

theorem cuts_comment (printable : ∀ c ∈ cs, isPrintable c = true) :
    Cuts ('#' :: cs ++ ['\n']) [.newline] := by
  refine ⟨2, by simp, fun fuel rest => ?_⟩
  have after : afterComment? (cs ++ '\n' :: rest) = some ('\n' :: rest) := by
    rw [afterComment?, List.dropWhile_append_of_pos printable]
    rfl
  rw [List.append_assoc, List.singleton_append, List.cons_append, tokensWithin, after]
  rfl

theorem cuts_newline : Cuts ['\n'] [.newline] := ⟨1, Nat.le_refl 1, fun _ _ => rfl⟩

theorem isWordEnd_of_isKeyChar (key : isKeyChar c = true) : isWordEnd c = false := by
  have apart : [' ', '\t', '\n', '\r', '=', '.', ',', '[', ']', '{', '}', '#', '"', '\''].any
      isKeyChar = false := by decide
  refine Bool.eq_false_iff.mpr fun ends => ?_
  have mem : c ∈ [' ', '\t', '\n', '\r', '=', '.', ',', '[', ']', '{', '}', '#', '"', '\''] := by
    simpa [isWordEnd, or_assoc] using ends
  exact List.any_eq_false.mp apart c mem key

theorem isKeyChar_of_isDigit (digit : c.isDigit = true) : isKeyChar c = true := by
  simp only [isKeyChar, Char.isAlphanum, digit, Bool.or_true, Bool.true_or]

theorem cuts_number {key : List Char} (present : key ≠ [])
    (plain : ∀ c ∈ key, isKeyChar c = true) (n : Nat) :
    Cuts (key ++ [' ', '=', ' '] ++ Nat.toDigits 10 n ++ ['\n'])
      [.word key, .blank true, .equals, .blank true, .word (Nat.toDigits 10 n), .newline] := by
  have size : 0 < key.length := List.length_pos_iff.mpr present
  refine ⟨6, ?_, fun fuel rest => ?_⟩
  · have more : 0 < (Nat.toDigits 10 n).length := List.length_pos_iff.mpr Nat.toDigits_ne_nil
    simp only [List.length_append, List.length_cons, List.length_nil]
    omega
  have inKey : ∀ c ∈ key, isWordEnd c = false := fun c hc => isWordEnd_of_isKeyChar (plain c hc)
  have inDigits : ∀ c ∈ Nat.toDigits 10 n, isWordEnd c = false := fun c hc =>
    isWordEnd_of_isKeyChar (isKeyChar_of_isDigit (isDigit_of_mem c hc))
  have follows : (Nat.toDigits 10 n ++ '\n' :: rest).head?.any isSpace = false := by
    obtain ⟨c, more, parted⟩ := List.exists_cons_of_ne_nil (Nat.toDigits_ne_nil (n := n) (b := 10))
    rw [parted]
    exact isSpace_of_isWordEnd (inDigits c (by rw [parted]; exact List.mem_cons_self))
  have equals : ∀ more, tokensWithin (fuel + 4) ('=' :: more) =
    (tokensWithin (fuel + 3) more).map (.equals :: ·) := fun _ => rfl
  have newline : tokensWithin (fuel + 1) ('\n' :: rest) =
    (tokensWithin fuel rest).map (.newline :: ·) := rfl
  simp only [List.append_assoc, List.cons_append, List.nil_append]
  rw [tokensWithin_word present inKey rfl, tokensWithin_space rfl, equals,
    tokensWithin_space follows, tokensWithin_word Nat.toDigits_ne_nil inDigits rfl, newline]
  simp only [Option.map_map]
  rfl

theorem Line.cuts {line : Line} (plain : line.IsPlain) : Cuts line.text.toList line.tokens := by
  cases line with
  | comment text =>
      simp only [Line.text, String.toList_append]
      exact cuts_comment plain
  | empty => exact cuts_newline
  | number key n =>
      obtain ⟨present, bare, -⟩ := plain
      simp only [Line.text, ofNat, String.toList_append, String.toList_ofList]
      exact cuts_number present bare n

theorem textOf_cons (line : Line) (rest : List Line) :
    textOf (line :: rest) = line.text ++ textOf rest := by
  rw [textOf, List.map_cons, String.join_cons]
  rfl

theorem textOf_append (a b : List Line) : textOf (a ++ b) = textOf a ++ textOf b := by
  rw [textOf, List.map_append, String.join_append]
  rfl

theorem cuts_lines {lines : List Line} (plain : ∀ line ∈ lines, line.IsPlain) :
    Cuts (textOf lines).toList (lines.flatMap Line.tokens) := by
  induction lines with
  | nil => exact ⟨0, Nat.le_refl 0, fun fuel rest => by simp [textOf]⟩
  | cons line rest ih =>
      obtain ⟨first, later⟩ := List.forall_mem_cons.mp plain
      rw [textOf_cons, String.toList_append, List.flatMap_cons]
      exact (Line.cuts first).append (ih later)

/-- No line begins with a byte order mark. -/
theorem Line.unmarked {line : Line} (plain : line.IsPlain) (rest : List Char) :
    (line.text.toList ++ rest).head? ≠ some '\ufeff' := by
  cases line with
  | comment text => simp [Line.text]
  | empty => simp [Line.text]
  | number key n =>
      obtain ⟨present, bare, -⟩ := plain
      obtain ⟨c, more, parted⟩ := List.exists_cons_of_ne_nil present
      have first := bare c (by rw [parted]; exact List.mem_cons_self)
      simp only [Line.text, String.toList_append, parted, List.cons_append, List.head?_cons]
      rintro ⟨⟩
      exact absurd first (by decide)

theorem tokens?_lines {lines : List Line} (plain : ∀ line ∈ lines, line.IsPlain) :
    tokens? (textOf lines) = some (lines.flatMap Line.tokens) := by
  obtain ⟨cost, bound, cuts⟩ := cuts_lines plain
  have unmarked : (textOf lines).toList.head? ≠ some '\ufeff' := by
    cases lines with
    | nil => simp [textOf]
    | cons line rest =>
        rw [textOf_cons, String.toList_append]
        exact Line.unmarked (plain line List.mem_cons_self) _
  rw [tokens?]
  generalize (textOf lines).toList = cs at bound cuts unmarked ⊢
  have all := cuts (cs.length - cost + 1) []
  rw [List.append_nil, show cs.length - cost + 1 + cost = cs.length + 1 by omega] at all
  split
  · exact absurd rfl unmarked
  · rw [all]
    simp [tokensWithin]

end Tokens

section Tree
variable {key : String} {n : Nat} {root : Entries} {rest : List Token} {fuel : Nat}

theorem insert_new (fresh : ∀ entry ∈ root, entry.1 ≠ key) (n : Node) :
    insert n [] key root = some (root ++ [(key, .value n)]) := by
  rw [insert]
  induction root with
  | nil => rfl
  | cons entry later ih =>
      obtain ⟨first, others⟩ := List.forall_mem_cons.mp fresh
      rw [alter, if_neg first, ih others]
      rfl

theorem lines?_newline (path : List String) :
    lines? fuel root path (.newline :: rest) = lines? fuel root path rest := by
  cases fuel with
  | zero => rfl
  | succ fuel => simp only [lines?, skipLines]

theorem lines?_number (fresh : ∀ entry ∈ root, entry.1 ≠ key)
    (bare : ∀ c ∈ key.toList, isKeyChar c = true) (bounded : n < UInt64.size) :
    lines? (fuel + 2) root [] ((Line.number key n).tokens ++ rest) =
      lines? (fuel + 1) (root ++ [(key, .value (.whole n))]) [] rest := by
  have all : key.toList.all isKeyChar = true := List.all_eq_true.mpr bare
  have value : value? (fuel + 1) depthLimit
      (.word (Nat.toDigits 10 n) :: .newline :: rest) = some (.whole n, .newline :: rest) := by
    simp only [value?, scalarRun, wordRun, List.append_nil, scalar?_toDigits bounded]
    rfl
  have keyed : key? (fuel + 1) (.word key.toList :: .blank true :: .equals :: .blank true ::
      .word (Nat.toDigits 10 n) :: .newline :: rest) =
      some ([], key, .equals :: .blank true :: .word (Nat.toDigits 10 n) :: .newline :: rest) := by
    simp only [key?, keyPart?, all, if_true, String.ofList_toList, skipBlank]
  simp only [Line.tokens, List.cons_append, List.nil_append]
  rw [lines?]
  simp only [skipLines, keyed, Option.bind_eq_bind, Option.bind_some, skipBlank, value, alterAt,
    insert_new fresh, Option.pure_def]

/-- Numbers under their keys, as a table holds them while it is read. -/
def items (numbers : List (String × Nat)) : Entries :=
  numbers.map fun (key, n) => (key, .value (.whole n))

/-- Each number comes behind those read before it, for its key is none of theirs. -/
theorem lines?_lines {lines : List Line} (plain : ∀ line ∈ lines, line.IsPlain)
    (apart : (root.map Prod.fst ++ (numbersOf lines).map Prod.fst).Nodup)
    (enough : (lines.flatMap Line.tokens).length < fuel) :
    lines? fuel root [] (lines.flatMap Line.tokens) = some (root ++ items (numbersOf lines)) := by
  induction lines generalizing root fuel with
  | nil =>
      obtain ⟨fuel, rfl⟩ : ∃ before, fuel = before + 1 := ⟨fuel - 1, by simp at enough; omega⟩
      rw [show items (numbersOf []) = [] from rfl, List.append_nil]
      rfl
  | cons line rest ih =>
      obtain ⟨first, later⟩ := List.forall_mem_cons.mp plain
      rw [List.flatMap_cons] at enough ⊢
      cases line with
      | comment text =>
          refine (lines?_newline []).trans (ih later apart ?_)
          exact Nat.lt_of_succ_lt enough
      | empty =>
          refine (lines?_newline []).trans (ih later apart ?_)
          exact Nat.lt_of_succ_lt enough
      | number key n =>
          obtain ⟨-, bare, bounded⟩ := first
          have size : (rest.flatMap Line.tokens).length + 6 < fuel := by
            rwa [List.length_append, Nat.add_comm] at enough
          obtain ⟨fuel, rfl⟩ : ∃ before, fuel = before + 2 := ⟨fuel - 2, by omega⟩
          have parted : numbersOf (.number key n :: rest) = (key, n) :: numbersOf rest := rfl
          rw [parted, List.map_cons] at apart
          have fresh : ∀ entry ∈ root, entry.1 ≠ key := by
            rintro entry mem rfl
            exact (List.nodup_append.mp apart).2.2 _ (List.mem_map_of_mem mem) _
              List.mem_cons_self rfl
          rw [lines?_number fresh bare bounded, ih later _ (by omega), parted, List.append_assoc]
          · rfl
          · rwa [List.map_append, List.map_singleton, List.append_assoc]

theorem nodesOf_items (numbers : List (String × Nat)) :
    nodesOf (items numbers) = numbers.map fun (key, n) => (key, .whole n) := by
  induction numbers with
  | nil => rfl
  | cons number rest ih => exact congrArg (_ :: ·) ih

end Tree

/-- A file of numbers is read as the table of them, in their order. -/
theorem read?_lines {lines : List Line} (plain : ∀ line ∈ lines, line.IsPlain)
    (apart : ((numbersOf lines).map Prod.fst).Nodup) :
    read? (textOf lines) =
      some (.table ((numbersOf lines).map fun (key, n) => (key, .whole n))) := by
  have entries : lines? ((lines.flatMap Line.tokens).length + 2) [] []
      (lines.flatMap Line.tokens) = some (items (numbersOf lines)) :=
    lines?_lines plain apart (Nat.lt_add_of_pos_right Nat.two_pos)
  rw [read?, tokens?_lines plain, Option.bind_eq_bind, Option.bind_some, entries,
    Option.bind_eq_bind, Option.bind_some, nodesOf_items]
  rfl

end BoundSql.Toml
