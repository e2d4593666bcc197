import BoundSql.Data.Json.Printer
import BoundSql.Proofs.Json.Numeral
import BoundSql.Proofs.Node

/-! Printed texts cut into tokens again, compact ones and those over several lines. -/
namespace BoundSql.Json
open Node

mutual

/-- The tokens that a tree is printed as. -/
def tokens : Node → List Token
  | .list items => .openList :: [.comma].intercalate (tokensAll items) ++ [.closeList]
  | .table entries => .openTable :: [.comma].intercalate (tokensEntries entries) ++ [.closeTable]
  | .text s => [.text (some s)]
  | n => [.scalar n]

def tokensAll : List Node → List (List Token)
  | [] => []
  | n :: rest => tokens n :: tokensAll rest

def tokensEntries : List (String × Node) → List (List Token)
  | [] => []
  | (key, n) :: rest => (.text (some key) :: .colon :: tokens n) :: tokensEntries rest

end

def entryTokens (entry : String × Node) : List Token :=
  .text (some entry.1) :: .colon :: tokens entry.2

/-- A text is cut into tokens whatever comes before it, and whatever follows unless that would
lengthen a word. -/
def Lexes (text : List Char) (ts : List Token) : Prop :=
  ∀ done rest, (∀ c ∈ rest.head?, isWordChar c = false) →
    tokensFrom .between done (text ++ rest) = tokensFrom .between (ts.reverse ++ done) rest

theorem tokensFrom_mark {c : Char} {t : Token} (mark : begin? c = some (some t, .between))
    (done : List Token) (rest : List Char) :
    tokensFrom .between done (c :: rest) = tokensFrom .between (t :: done) rest := by
  simp [tokensFrom, Mode.step?, mark]

/-- White space between tokens leaves no trace. -/
theorem tokensFrom_gap {gap : List Char} (blank : gap.all isSpace) (done : List Token)
    (rest : List Char) :
    tokensFrom .between done (gap ++ rest) = tokensFrom .between done rest := by
  induction gap with
  | nil => rfl
  | cons c gap ih =>
      obtain ⟨first, later⟩ := Bool.and_eq_true_iff.mp blank
      have begun : begin? c = some (none, .between) := if_pos first
      rw [List.cons_append, tokensFrom, Mode.step?, begun]
      exact ih later

section Words

theorem begin?_word {c : Char} (word : isWordChar c = true) :
    begin? c = some (none, .word [c]) := by
  have other : ∀ d, isWordChar d = false → c ≠ d := by
    rintro d wild rfl
    rw [word] at wild
    cases wild
  simp [begin?, isSpace, word, other ' ' (by decide), other '\t' (by decide),
    other '\n' (by decide), other '\r' (by decide), other '"' (by decide)]

theorem tokensFrom_word {cs : List Char} (word : cs.all isWordChar)
    (taken : List Char) (done : List Token) (rest : List Char) :
    tokensFrom (.word taken) done (cs ++ rest) =
      tokensFrom (.word (cs.reverse ++ taken)) done rest := by
  induction cs generalizing taken with
  | nil => rfl
  | cons c cs ih =>
      obtain ⟨first, later⟩ := Bool.and_eq_true_iff.mp word
      rw [List.cons_append, tokensFrom, Mode.step?, if_pos first, List.reverse_cons,
        List.append_assoc]
      exact ih later (c :: taken)

/-- A word ends before whatever does not lengthen it. -/
theorem tokensFrom_ended {taken : List Char} {t : Token} (h : wordToken? taken.reverse = some t)
    (done : List Token) {rest : List Char} (loose : ∀ c ∈ rest.head?, isWordChar c = false) :
    tokensFrom (.word taken) done rest = tokensFrom .between (t :: done) rest := by
  cases rest with
  | nil => simp [tokensFrom, h]
  | cons c rest =>
      have unlike : isWordChar c = false := loose c rfl
      simp only [tokensFrom, Mode.step?, unlike, h]
      cases begin? c <;> rfl

theorem lexes_word {cs : List Char} {t : Token} (word : cs.all isWordChar)
    (h : wordToken? cs = some t) : Lexes cs [t] := by
  intro done rest loose
  cases cs with
  | nil => cases h
  | cons c cs =>
      obtain ⟨first, later⟩ := Bool.and_eq_true_iff.mp word
      have begun : tokensFrom .between done (c :: (cs ++ rest)) =
          tokensFrom (.word [c]) done (cs ++ rest) := by
        simp [tokensFrom, Mode.step?, begin?_word first]
      rw [List.cons_append, begun, tokensFrom_word later]
      exact tokensFrom_ended (by simpa using h) done loose

end Words

section Strings

/-- An escape is a backslash before a mark that stands for the character, or before its code. -/
theorem escape_cases {c : Char} {text : String} (h : escape? c = some text) :
    (∃ mark, text.toList = ['\\', mark] ∧ mark ≠ 'u' ∧ unescape? mark = some c) ∨
      ∃ high low, text.toList = ['\\', 'u', '0', '0', high, low] ∧
        ∃ h l, Text.hexDigit? high = some h ∧ Text.hexDigit? low = some l ∧
          h * 16 + l = c.toNat ∧ c.toNat < 0x20 := by
  have codes : ∀ n < 0x20,
      ("\\u" ++ (if n < 0x10 then "000" else "00") ++ Text.hexadecimal n).toList =
        ['\\', 'u', '0', '0', (n / 16).digitChar, (n % 16).digitChar] ∧
      Text.hexDigit? (n / 16).digitChar = some (n / 16) ∧
      Text.hexDigit? (n % 16).digitChar = some (n % 16) := by decide
  unfold escape? at h
  split at h
  case h_8 =>
    split at h
    · cases h
      obtain ⟨chars, high, low⟩ := codes c.toNat ‹_›
      exact .inr ⟨_, _, chars, _, _, high, low, Nat.div_add_mod' _ _, ‹_›⟩
    · cases h
  all_goals
    cases h
    refine .inl ⟨_, rfl, ?_, ?_⟩ <;> decide

theorem escape?_eq_none {c : Char} (h : escape? c = none) :
    c ≠ '"' ∧ c ≠ '\\' ∧ ¬ c.toNat < 0x20 := by
  refine ⟨?_, ?_, fun control => ?_⟩
  · rintro rfl
    revert h
    decide
  · rintro rfl
    revert h
    decide
  · unfold escape? at h
    split at h
    case h_8 => exact absurd h (by rw [if_pos control]; exact Option.some_ne_none _)
    all_goals cases h

theorem tokensFrom_escaped (c : Char) (cs : List Char) (done : List Token) (rest : List Char) :
    tokensFrom (.text ⟨cs, none, true⟩) done
        (((escape? c).getD (String.singleton c)).toList ++ rest) =
      tokensFrom (.text ⟨c :: cs, none, true⟩) done rest := by
  cases escaped : escape? c with
  | none =>
      obtain ⟨quote, backslash, control⟩ := escape?_eq_none escaped
      have itself : (((none : Option String).getD (String.singleton c)).toList ++ rest) =
          c :: rest := by simp
      rw [itself, tokensFrom, Mode.step?, if_neg quote, if_neg backslash, if_neg control]
      rfl
  | some text =>
      rw [Option.getD_some]
      obtain ⟨mark, chars, plain, stands⟩ | ⟨high, low, chars, h, l, hhigh, hlow, code, control⟩ :=
        escape_cases escaped
      · rw [chars]
        simp [tokensFrom, Mode.step?, plain, stands, Contents.addChar]
      -- A code this small is no half of a pair, so it stands for the character at once.
      · have whole : c = Char.ofNat (h * 16 + l) := by rw [code, Char.ofNat_toNat]
        have single : Contents.isHigh (h * 16 + l) = false ∧
            Contents.isLow (h * 16 + l) = false := by
          simp [Contents.isHigh, Contents.isLow]
          omega
        have zero : Text.hexDigit? '0' = some 0 := by decide
        rw [chars, whole]
        simp [tokensFrom, Mode.step?, zero, hhigh, hlow, Contents.addCode, single,
          Contents.addChar]

theorem tokensFrom_contents (text : List Char) (cs : List Char) (done : List Token)
    (rest : List Char) :
    tokensFrom (.text ⟨cs, none, true⟩) done
        ((text.map fun c => ((escape? c).getD (String.singleton c)).toList).flatten ++ rest) =
      tokensFrom (.text ⟨text.reverse ++ cs, none, true⟩) done rest := by
  induction text generalizing cs with
  | nil => rfl
  | cons c text ih =>
      rw [List.map_cons, List.flatten_cons, List.append_assoc, tokensFrom_escaped, ih,
        List.reverse_cons, List.append_assoc]
      rfl

/-- A string ends with its own quote, so that anything may follow. -/
theorem tokensFrom_string (s : String) (done : List Token) (rest : List Char) :
    tokensFrom .between done ((string s).toList ++ rest) =
      tokensFrom .between (.text (some s) :: done) rest := by
  have chars : (string s).toList ++ rest =
      '"' :: ((s.toList.map fun c => ((escape? c).getD (String.singleton c)).toList).flatten ++
        '"' :: rest) := by
    simp [string, String.toList_join, List.flatMap_def, Function.comp_def]
  have opened : ∀ more, tokensFrom .between done ('"' :: more) =
      tokensFrom (.text ⟨[], none, true⟩) done more := fun more => by
    simp [tokensFrom, Mode.step?, begin?, isSpace]
  rw [chars, opened, tokensFrom_contents]
  simp [tokensFrom, Mode.step?, Contents.text?]

end Strings

theorem lexes_string (s : String) : Lexes (string s).toList [.text (some s)] :=
  fun done rest _ => tokensFrom_string s done rest

section Lists

theorem compactAll_eq (items : List Node) : compactAll items = items.map compact := by
  induction items with
  | nil => rfl
  | cons n rest ih => rw [compactAll, ih, List.map_cons]

theorem compactEntries_eq (entries : List (String × Node)) :
    compactEntries entries = entries.map fun entry => string entry.1 ++ ":" ++ compact entry.2 := by
  induction entries with
  | nil => rfl
  | cons entry rest ih =>
      obtain ⟨key, n⟩ := entry
      rw [compactEntries, ih, List.map_cons]

theorem prettyAll_eq (level : Nat) (items : List Node) :
    prettyAll level items = items.map (pretty level) := by
  induction items with
  | nil => rfl
  | cons n rest ih => rw [prettyAll, ih, List.map_cons]

theorem prettyEntries_eq (level : Nat) (entries : List (String × Node)) :
    prettyEntries level entries =
      entries.map fun entry => string entry.1 ++ ": " ++ pretty level entry.2 := by
  induction entries with
  | nil => rfl
  | cons entry rest ih =>
      obtain ⟨key, n⟩ := entry
      rw [prettyEntries, ih, List.map_cons]

theorem tokensAll_eq (items : List Node) : tokensAll items = items.map tokens := by
  induction items with
  | nil => rfl
  | cons n rest ih => rw [tokensAll, ih, List.map_cons]

theorem tokensEntries_eq (entries : List (String × Node)) :
    tokensEntries entries = entries.map entryTokens := by
  induction entries with
  | nil => rfl
  | cons entry rest ih =>
      obtain ⟨key, n⟩ := entry
      rw [tokensEntries, ih, List.map_cons, entryTokens]

theorem intercalate_map_cons {α β : Type} (mark : β) (part : α → List β) (x y : α)
    (rest : List α) : [mark].intercalate ((x :: y :: rest).map part) =
      part x ++ mark :: [mark].intercalate ((y :: rest).map part) := by
  simp

theorem isWordChar_of_mark {c : Char} {t : Token} (mark : begin? c = some (some t, .between)) :
    isWordChar c = false := by
  by_contra word
  rw [begin?_word (Bool.not_eq_false _ ▸ word)] at mark
  cases mark

theorem isWordChar_of_isSpace {c : Char} (space : isSpace c = true) : isWordChar c = false := by
  by_contra word
  have begun : begin? c = some (none, .between) := if_pos space
  rw [begin?_word (Bool.not_eq_false _ ▸ word)] at begun
  cases begun

/-- Parts with commas between them, each of which is cut into its own tokens. There may be white
space behind the commas. -/
theorem lexes_joined {α : Type} {gap : List Char} (blank : gap.all isSpace)
    {text : α → List Char} {part : α → List Token} {items : List α}
    (h : ∀ x ∈ items, Lexes (text x) (part x)) :
    Lexes ((',' :: gap).intercalate (items.map text)) ([.comma].intercalate (items.map part)) := by
  have comma : begin? ',' = some (some .comma, .between) := by rfl
  induction items with
  | nil => exact fun _ _ _ => rfl
  | cons x rest ih =>
      obtain ⟨first, others⟩ := List.forall_mem_cons.mp h
      cases rest with
      | nil => simpa using first
      | cons y more =>
          intro done behind loose
          -- Whatever word the first part may end in, the comma is no more of it.
          have ends : ∀ behind : List Char, ∀ c ∈ (',' :: behind).head?, isWordChar c = false := by
            rintro _ _ ⟨⟩
            exact isWordChar_of_mark comma
          rw [intercalate_map_cons, List.map_cons, List.map_cons, List.intercalate_cons_cons,
            List.append_assoc, List.append_assoc, List.cons_append, first _ _ (ends _),
            tokensFrom_mark comma, tokensFrom_gap blank, ← List.map_cons,
            ih others _ _ loose, List.reverse_append, List.reverse_cons, List.append_assoc,
            List.append_assoc]
          rfl

/-- Something between brackets, with white space inside of them or none. -/
theorem Lexes.enclosed {opening closing : Char} {t u : Token} {before after text : List Char}
    {ts : List Token} (ho : begin? opening = some (some t, .between))
    (hc : begin? closing = some (some u, .between)) (hb : before.all isSpace)
    (ha : after.all isSpace) (h : Lexes text ts) :
    Lexes (opening :: (before ++ text ++ after) ++ [closing]) (t :: ts ++ [u]) := by
  intro done rest _
  have ends : ∀ c ∈ (after ++ closing :: rest).head?, isWordChar c = false := by
    cases after with
    | nil =>
        rintro _ ⟨⟩
        exact isWordChar_of_mark hc
    | cons c after =>
        rintro _ ⟨⟩
        exact isWordChar_of_isSpace (Bool.and_eq_true_iff.mp ha).1
  rw [List.append_assoc, List.cons_append, tokensFrom_mark ho, List.singleton_append,
    List.append_assoc, List.append_assoc, tokensFrom_gap hb, h _ _ ends, tokensFrom_gap ha,
    tokensFrom_mark hc]
  simp

/-- A key and a value, with white space between them or none. -/
theorem lexes_entry {gap text : List Char} (blank : gap.all isSpace) {entry : String × Node}
    (h : Lexes text (tokens entry.2)) :
    Lexes ((string entry.1).toList ++ ':' :: (gap ++ text)) (entryTokens entry) := by
  intro done rest loose
  have colon : begin? ':' = some (some .colon, .between) := by rfl
  rw [List.append_assoc, List.cons_append, List.append_assoc, tokensFrom_string,
    tokensFrom_mark colon, tokensFrom_gap blank, h _ _ loose, entryTokens]
  simp

end Lists

/-- What a printer puts on lines of their own between brackets. -/
theorem lexes_bracketed {α : Type} {opening closing : String} {c d : Char} {t u : Token}
    (opens : opening.toList = [c]) (closes : closing.toList = [d])
    (ho : begin? c = some (some t, .between)) (hc : begin? d = some (some u, .between))
    (level : Nat) {text : α → String} {part : α → List Token} {items : List α}
    (h : ∀ x ∈ items, Lexes (text x).toList (part x)) :
    Lexes (bracketed opening closing level (items.map text)).toList
      (t :: [.comma].intercalate (items.map part) ++ [u]) := by
  by_cases bare : items = []
  · have nothing : Lexes [] [] := fun _ _ _ => rfl
    have blank : ([] : List Char).all isSpace := rfl
    simpa [bracketed, bare, opens, closes] using nothing.enclosed ho hc blank blank
  · have blank : ∀ level, ('\n' :: List.replicate level ' ').all isSpace := fun level => by
      rw [List.all_cons, List.all_replicate]
      split <;> rfl
    have all := (lexes_joined (blank (2 * (level + 1))) h).enclosed ho hc
      (blank (2 * (level + 1))) (blank (2 * level))
    simpa [bracketed, bare, opens, closes, String.toList_intercalate, Function.comp_def] using all

theorem lexes_compact {n : Node} (h : Plain n) : Lexes (compact n).toList (tokens n) := by
  have blank : ([] : List Char).all isSpace := rfl
  induction h with
  | null => exact lexes_word (by decide) rfl
  | bool b => cases b <;> exact lexes_word (by decide) rfl
  | whole low high => exact lexes_word (isWordChar_ofInt _) (wordToken?_ofInt low high)
  | text s => exact lexes_string s
  | list _ ih =>
      have opening : begin? '[' = some (some .openList, .between) := by rfl
      have closing : begin? ']' = some (some .closeList, .between) := by rfl
      have all := (lexes_joined blank ih).enclosed opening closing blank blank
      rw [compact, tokens, compactAll_eq, tokensAll_eq]
      simpa [Function.comp_def] using all
  | table _ ih =>
      have opening : begin? '{' = some (some .openTable, .between) := by rfl
      have closing : begin? '}' = some (some .closeTable, .between) := by rfl
      have all := (lexes_joined blank fun entry he => lexes_entry blank (ih entry he)).enclosed
        opening closing blank blank
      rw [compact, tokens, compactEntries_eq, tokensEntries_eq]
      simpa [Function.comp_def] using all

/-- A piece without parts is one line. -/
theorem pretty_single {n : Node} (single : n.depth = 0) (level : Nat) :
    pretty level n = compact n := by
  cases n with
  | list items => exact absurd single (Nat.succ_ne_zero _)
  | table entries => exact absurd single (Nat.succ_ne_zero _)
  | null | bool | whole | real | text | unreadable => simp only [pretty, compact]

/-- Over several lines the same tokens stand as on one line. -/
theorem lexes_pretty {n : Node} (h : Plain n) (level : Nat) :
    Lexes (pretty level n).toList (tokens n) := by
  induction h generalizing level with
  | null =>
      rw [pretty_single (by rfl)]
      exact lexes_compact .null
  | bool b =>
      rw [pretty_single (by rfl)]
      exact lexes_compact (.bool b)
  | whole low high =>
      rw [pretty_single (by rfl)]
      exact lexes_compact (.whole low high)
  | text s =>
      rw [pretty_single (by rfl)]
      exact lexes_compact (.text s)
  | list _ ih =>
      have opening : begin? '[' = some (some .openList, .between) := by rfl
      have closing : begin? ']' = some (some .closeList, .between) := by rfl
      rw [pretty, tokens, prettyAll_eq, tokensAll_eq]
      exact lexes_bracketed (by decide) (by decide) opening closing level
        fun n hn => ih n hn (level + 1)
  | table _ ih =>
      have opening : begin? '{' = some (some .openTable, .between) := by rfl
      have closing : begin? '}' = some (some .closeTable, .between) := by rfl
      have space : [' '].all isSpace := rfl
      rw [pretty, tokens, prettyEntries_eq, tokensEntries_eq]
      refine lexes_bracketed (by decide) (by decide) opening closing level fun entry he => ?_
      simpa using lexes_entry space (ih entry he (level + 1))

/-- A text is cut into the tokens that it is made of, also with white space behind it. -/
theorem Lexes.tokens? {text gap : String} {ts : List Token} (h : Lexes text.toList ts)
    (blank : gap.toList.all isSpace) : tokens? (text ++ gap) = some ts := by
  have ends : ∀ c ∈ gap.toList.head?, isWordChar c = false := by
    intro c hc
    exact isWordChar_of_isSpace (List.all_eq_true.mp blank c (List.mem_of_head? hc))
  have behind := tokensFrom_gap blank ts.reverse []
  rw [List.append_nil] at behind
  rw [Json.tokens?, String.toList_append, h _ _ ends, List.append_nil, behind, tokensFrom,
    List.reverse_reverse]

/-- A compact text is cut into the tokens of its tree. -/
theorem tokens?_compact {n : Node} (h : Plain n) : tokens? (compact n) = some (tokens n) := by
  have all := (lexes_compact h).tokens? (by rfl : "".toList.all isSpace)
  rwa [String.append_empty] at all

end BoundSql.Json
