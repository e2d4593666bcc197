import BoundSql.Proofs.Placeholder.Scan
import BoundSql.Value

/-! SQL texts as lexemes: characters, and literals in single quotes, inside of which a doubled quote
is one quote. The scan for placeholders only counts quotes, and still sees what is outside. -/
namespace BoundSql
open Statement

/-- A character outside literals, or a literal by the characters that it stands for, with or
without an end. -/
inductive Lexeme where
  | character (c : Char)
  | literal (content : List Char)
  | unended (content : List Char)
deriving DecidableEq

namespace Lexeme

/-- The lexemes of a text that begins outside literals, or in one of which some characters are
taken already. A quote inside a literal ends it, unless another quote follows. -/
def readFrom : Option (List Char) → List Char → List Lexeme
  | none, [] => []
  | none, c :: rest =>
    if c = '\'' then readFrom (some []) rest else character c :: readFrom none rest
  | some taken, [] => [unended taken]
  | some taken, '\'' :: '\'' :: rest => readFrom (some (taken ++ ['\''])) rest
  | some taken, '\'' :: rest => literal taken :: readFrom none rest
  | some taken, c :: rest => readFrom (some (taken ++ [c])) rest

def read (cs : List Char) : List Lexeme := readFrom none cs

/-- The characters that a lexeme is read from. -/
def spelled : Lexeme → List Char
  | character c => [c]
  | literal content => '\'' :: (Value.quoteChars content ++ ['\''])
  | unended content => '\'' :: Value.quoteChars content

def isUnended : Lexeme → Bool
  | unended _ => true
  | _ => false

/-- That a text ends outside literals. -/
def Closed (cs : List Char) : Prop := (read cs).any isUnended = false

/-- Induction on the reading of a text, by what each character does where it stands. -/
theorem induct {P : Option (List Char) → List Char → List Lexeme → Prop}
    (finished : P none [] [])
    (opens : ∀ rest ls, P (some []) rest ls → P none ('\'' :: rest) ls)
    (passes : ∀ c rest ls, c ≠ '\'' → P none rest ls → P none (c :: rest) (character c :: ls))
    (breaks : ∀ taken, P (some taken) [] [unended taken])
    (doubles : ∀ taken rest ls, P (some (taken ++ ['\''])) rest ls →
      P (some taken) ('\'' :: '\'' :: rest) ls)
    (closes : ∀ taken rest ls, rest.head? ≠ some '\'' → P none rest ls →
      P (some taken) ('\'' :: rest) (literal taken :: ls))
    (takes : ∀ taken c rest ls, c ≠ '\'' → P (some (taken ++ [c])) rest ls →
      P (some taken) (c :: rest) ls)
    (inside : Option (List Char)) (cs : List Char) : P inside cs (readFrom inside cs) := by
  fun_induction readFrom inside cs with
  | case1 => exact finished
  | case2 rest ih => exact opens _ _ ih
  | case3 c rest plain ih => exact passes _ _ _ plain ih
  | case4 taken => exact breaks taken
  | case5 taken rest ih => exact doubles _ _ _ ih
  | case6 taken rest single ih =>
      refine closes _ _ _ ?_ ih
      rw [ne_eq, List.head?_eq_some_iff]
      rintro ⟨more, doubled⟩
      exact single more doubled
  | case7 taken c rest _ plain ih => exact takes _ _ _ _ plain ih

/-- The scan counts the question marks that are lexemes. -/
theorem placeholders_readFrom (inside : Option (List Char)) (cs : List Char) :
    placeholders inside.isSome cs = (readFrom inside cs).count (character '?') := by
  induction inside, cs using induct with
  | finished | breaks => rfl
  | opens rest ls ih => exact ih
  | passes c rest ls plain ih =>
      rw [Option.isSome_none, placeholders, if_neg plain]
      by_cases mark : c = '?'
      · subst mark
        rw [List.count_cons_self]
        exact congrArg (· + 1) ih
      · rw [List.count_cons_of_ne (by simpa using mark), if_neg (by simp [mark])]
        exact ih
  | doubles taken rest ls ih => exact ih
  | closes taken rest ls _ ih =>
      rw [List.count_cons_of_ne (by simp)]
      exact ih
  | takes taken c rest ls plain ih =>
      rw [Option.isSome_some, placeholders, if_neg plain, if_neg (by simp)]
      exact ih

theorem endsInside_readFrom (inside : Option (List Char)) (cs : List Char) :
    endsInside inside.isSome cs = (readFrom inside cs).any isUnended := by
  induction inside, cs using induct with
  | finished | breaks => rfl
  | opens rest ls ih | doubles taken rest ls ih | closes taken rest ls single ih => exact ih
  | passes c rest ls plain ih =>
      rw [endsInside, if_neg plain]
      exact ih
  | takes taken c rest ls plain ih =>
      rw [endsInside, if_neg plain]
      exact ih

theorem quoteChars_append (a b : List Char) :
    Value.quoteChars (a ++ b) = Value.quoteChars a ++ Value.quoteChars b := by
  induction a with
  | nil => rfl
  | cons c a ih =>
      rw [List.cons_append, Value.quoteChars, ih, Value.quoteChars]
      split <;> rfl

theorem quoteChars_single {c : Char} (plain : c ≠ '\'') : Value.quoteChars [c] = [c] :=
  if_neg plain

/-- The characters of the literal that a text begins inside of. -/
def begun : Option (List Char) → List Char
  | none => []
  | some taken => '\'' :: Value.quoteChars taken

/-- The lexemes of a text are the text, and so leave nothing out. -/
theorem spelled_readFrom (inside : Option (List Char)) (cs : List Char) :
    (readFrom inside cs).flatMap spelled = begun inside ++ cs := by
  induction inside, cs using induct with
  | finished => rfl
  | opens rest ls ih => exact ih
  | passes c rest ls plain ih =>
      rw [List.flatMap_cons, ih]
      rfl
  | breaks taken => rw [List.flatMap_singleton, List.append_nil, spelled, begun]
  | doubles taken rest ls ih =>
      rw [ih, begun, quoteChars_append]
      simp [begun, Value.quoteChars]
  | closes taken rest ls single ih =>
      rw [List.flatMap_cons, ih]
      simp [begun, spelled]
  | takes taken c rest ls plain ih =>
      rw [ih, begun, quoteChars_append, quoteChars_single plain]
      simp [begun]

theorem readFrom_closes {rest : List Char} (single : rest.head? ≠ some '\'')
    (taken : List Char) :
    readFrom (some taken) ('\'' :: rest) = literal taken :: readFrom none rest := by
  rw [readFrom]
  rintro more rfl
  exact single rfl

theorem readFrom_takes {c : Char} (plain : c ≠ '\'') (taken rest : List Char) :
    readFrom (some taken) (c :: rest) = readFrom (some (taken ++ [c])) rest := by
  rw [readFrom]
  · rintro more rfl
    exact absurd rfl plain
  · exact plain

/-- That two texts do not meet in a quote on both sides. -/
def Apart (a b : List Char) : Prop := a.getLast? ≠ some '\'' ∨ b.head? ≠ some '\''

theorem Apart.tail {c : Char} {a b : List Char} (h : Apart (c :: a) b) : Apart a b := by
  cases a with
  | nil => exact .inl (by simp)
  | cons d a => exact h.imp_left (by simp)

/-- A text that closes its literals is read for itself, unless a quote at its end is doubled. -/
theorem readFrom_append {b : List Char} (inside : Option (List Char)) (a : List Char) :
    (readFrom inside a).any isUnended = false → Apart a b →
      readFrom inside (a ++ b) = readFrom inside a ++ read b := by
  induction inside, a using induct with
  | finished => exact fun _ _ => rfl
  | opens rest ls ih => exact fun closed apart => ih closed apart.tail
  | passes c rest ls plain ih =>
      intro closed apart
      rw [List.cons_append, readFrom, if_neg plain, ih closed apart.tail, List.cons_append]
  | breaks taken => exact fun closed => absurd closed (by simp [isUnended])
  | doubles taken rest ls ih => exact fun closed apart => ih closed apart.tail.tail
  | closes taken rest ls single ih =>
      intro closed apart
      have next : (rest ++ b).head? ≠ some '\'' := by
        cases rest with
        | nil => exact apart.resolve_left (by simp)
        | cons d rest => simpa using single
      rw [List.cons_append, readFrom_closes next, ih closed apart.tail, List.cons_append]
  | takes taken c rest ls plain ih =>
      intro closed apart
      rw [List.cons_append, readFrom_takes plain, ih closed apart.tail]

end Lexeme
end BoundSql
