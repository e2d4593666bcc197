import BoundSql.Proofs.Json.Reread

/-! Texts over several lines as tokens that are laid out. The layout goes from token to token and
knows no more of the tree than how many lists and tables are open, and whether the innermost has
been opened just now. -/
namespace BoundSql.Json

/-- A line end, and two spaces on the next line for each list or table that is open. -/
def lineStart (level : Nat) : String := "\n" ++ String.ofList (List.replicate (2 * level) ' ')

/-- What comes before a piece: the first one of a list or table is on a line of its own. -/
def lead (fresh : Bool) (level : Nat) : String := if fresh then lineStart level else ""

theorem lead_true (level : Nat) : lead true level = lineStart level := rfl

theorem lead_false (level : Nat) : lead false level = "" := rfl

/-- Tokens laid out, where so many lists and tables are open. Each piece of a list or table has a
line of its own, and so has the bracket that closes it, unless nothing is in it. -/
def laidOut (level : Nat) (fresh : Bool) : List Token → String
  | [] => ""
  | .openList :: rest => lead fresh level ++ "[" ++ laidOut (level + 1) true rest
  | .openTable :: rest => lead fresh level ++ "\x7b" ++ laidOut (level + 1) true rest
  | .closeList :: rest => lead (!fresh) (level - 1) ++ "]" ++ laidOut (level - 1) false rest
  | .closeTable :: rest => lead (!fresh) (level - 1) ++ "\x7d" ++ laidOut (level - 1) false rest
  | .comma :: rest => "," ++ lineStart level ++ laidOut level false rest
  | .colon :: rest => ": " ++ laidOut level false rest
  | .text s :: rest => lead fresh level ++ string (s.getD "") ++ laidOut level false rest
  | .scalar n :: rest => lead fresh level ++ scalar n ++ laidOut level false rest

theorem bracketed_nil (opening closing : String) (level : Nat) :
    bracketed opening closing level [] = opening ++ closing := rfl

theorem bracketed_cons {α : Type} (opening closing : String) (level : Nat) (text : α → String)
    (x : α) (items : List α) :
    bracketed opening closing level ((x :: items).map text) =
      opening ++ lineStart (level + 1) ++
        ("," ++ lineStart (level + 1)).intercalate ((x :: items).map text) ++ lineStart level ++
        closing := rfl

/-- Parts with commas between them, each of which is laid out as its text. -/
theorem laidOut_joined {α : Type} {level : Nat} {text : α → String} {part : α → List Token}
    {x : α} {items : List α}
    (each : ∀ y ∈ x :: items, ∀ fresh rest, laidOut level fresh (part y ++ rest) =
      lead fresh level ++ text y ++ laidOut level false rest) (fresh : Bool) (rest : List Token) :
    laidOut level fresh ([.comma].intercalate ((x :: items).map part) ++ rest) =
      lead fresh level ++ ("," ++ lineStart level).intercalate ((x :: items).map text) ++
        laidOut level false rest := by
  induction items generalizing x fresh with
  | nil =>
      rw [List.map_singleton, List.map_singleton, List.intercalate_singleton,
        String.intercalate_singleton]
      exact each x List.mem_cons_self fresh rest
  | cons y more ih =>
      obtain ⟨first, later⟩ := List.forall_mem_cons.mp each
      rw [intercalate_map_cons, List.append_assoc, first, List.cons_append, laidOut, ih later,
        lead_false, String.empty_append, List.map_cons, List.map_cons, List.map_cons,
        String.intercalate_cons_cons]
      simp only [String.append_assoc]

mutual

/-- The tokens of a tree are laid out as the tree is printed, whatever follows. -/
theorem laidOut_tokens : ∀ (n : Node) (level : Nat) (fresh : Bool) (rest : List Token),
    laidOut level fresh (tokens n ++ rest) =
      lead fresh level ++ pretty level n ++ laidOut level false rest
  | .list [], level, fresh, rest => by
      have empty : tokens (.list []) = [.openList, .closeList] := rfl
      rw [empty, pretty, prettyAll, bracketed_nil, List.cons_append, laidOut, List.cons_append,
        laidOut, Bool.not_true, lead_false, List.nil_append, Nat.add_sub_cancel]
      simp only [String.append_assoc, String.empty_append]
  | .list (n :: more), level, fresh, rest => by
      rw [tokens, tokensAll_eq, pretty, prettyAll_eq, bracketed_cons, List.cons_append,
        List.cons_append, List.append_assoc, laidOut,
        laidOut_joined (laidOut_items (n :: more) (level + 1)), List.singleton_append, laidOut,
        Bool.not_false, Nat.add_sub_cancel]
      simp only [lead_true, String.append_assoc]
  | .table [], level, fresh, rest => by
      have empty : tokens (.table []) = [.openTable, .closeTable] := rfl
      rw [empty, pretty, prettyEntries, bracketed_nil, List.cons_append, laidOut,
        List.cons_append, laidOut, Bool.not_true, lead_false, List.nil_append, Nat.add_sub_cancel]
      simp only [String.append_assoc, String.empty_append]
  | .table (entry :: more), level, fresh, rest => by
      rw [tokens, tokensEntries_eq, pretty, prettyEntries_eq, bracketed_cons, List.cons_append,
        List.cons_append, List.append_assoc, laidOut,
        laidOut_joined (laidOut_entries (entry :: more) (level + 1)), List.singleton_append,
        laidOut, Bool.not_false, Nat.add_sub_cancel]
      simp only [lead_true, String.append_assoc]
  | .text s, level, fresh, rest => rfl
  | .null, level, fresh, rest => rfl
  | .bool b, level, fresh, rest => rfl
  | .whole n, level, fresh, rest => rfl
  | .real x, level, fresh, rest => rfl
  | .unreadable, level, fresh, rest => rfl

theorem laidOut_items : ∀ (items : List Node) (level : Nat), ∀ n ∈ items, ∀ fresh rest,
    laidOut level fresh (tokens n ++ rest) =
      lead fresh level ++ pretty level n ++ laidOut level false rest
  | [], _ => List.forall_mem_nil _
  | n :: more, level => List.forall_mem_cons.mpr ⟨laidOut_tokens n level, laidOut_items more level⟩

theorem laidOut_entries : ∀ (entries : List (String × Node)) (level : Nat),
    ∀ entry ∈ entries, ∀ fresh rest, laidOut level fresh (entryTokens entry ++ rest) =
      lead fresh level ++ (string entry.1 ++ ": " ++ pretty level entry.2) ++
        laidOut level false rest
  | [], _ => List.forall_mem_nil _
  | (key, n) :: more, level => by
      refine List.forall_mem_cons.mpr ⟨fun fresh rest => ?_, laidOut_entries more level⟩
      rw [entryTokens, List.cons_append, laidOut, List.cons_append, laidOut, Option.getD_some,
        laidOut_tokens n level false rest, lead_false, String.empty_append]
      simp only [String.append_assoc]

end

/-- That a text is a tree over several lines with a line end behind them: the tokens of the tree,
laid out. It is read as the tree, if that is printed without loss and not nested too deep. -/
structure Displays (n : Node) (text : String) : Prop where
  laid : text = laidOut 0 false (tokens n) ++ "\n"
  read : n.Plain → n.depth ≤ depthLimit → read? text = some n

theorem displays_pretty (n : Node) : Displays n (pretty 0 n ++ "\n") := by
  refine ⟨?_, fun plain room => read?_pretty plain room 0 (by decide)⟩
  have all := laidOut_tokens n 0 false []
  rw [List.append_nil] at all
  rw [all, lead_false, laidOut, String.empty_append, String.append_empty]

end BoundSql.Json
