import BoundSql.Proofs.Json.Printed

/-! How deep a text nests lists and tables, which is as deep as the tree that it is printed from. -/
namespace BoundSql.Json
open Node

/-- The most lists and tables that are open at once among tokens, when so many are open before. -/
def nestingFrom (level : Nat) : List Token → Nat
  | [] => level
  | .openList :: rest | .openTable :: rest => max level (nestingFrom (level + 1) rest)
  | .closeList :: rest | .closeTable :: rest => max level (nestingFrom (level - 1) rest)
  | _ :: rest => nestingFrom level rest

/-- The most lists and tables around one place of a text. -/
def nesting (text : String) : Nat := (tokens? text).elim 0 (nestingFrom 0)

variable {level : Nat}

theorem le_nestingFrom (ts : List Token) : level ≤ nestingFrom level ts := by
  induction ts with
  | nil => exact Nat.le_refl level
  | cons t rest ih =>
      cases t <;> first | exact Nat.le_max_left _ _ | exact ih

/-- Parts with commas between them nest as deep as the deepest of them. -/
theorem nestingFrom_joined {α : Type} {part : α → List Token} {deep : α → Nat} {items : List α}
    (each : ∀ x ∈ items, ∀ rest, nestingFrom level (part x ++ rest) =
      max (level + deep x) (nestingFrom level rest)) (rest : List Token) :
    nestingFrom level ([.comma].intercalate (items.map part) ++ rest) =
      max (level + (items.map deep).foldr max 0) (nestingFrom level rest) := by
  induction items with
  | nil => exact (Nat.max_eq_right (le_nestingFrom rest)).symm
  | cons x others ih =>
      obtain ⟨first, later⟩ := List.forall_mem_cons.mp each
      have deepest : (((x :: others).map deep).foldr max 0) =
          max (deep x) ((others.map deep).foldr max 0) := rfl
      rw [deepest]
      cases others with
      | nil =>
          rw [List.map_singleton, List.intercalate_singleton, first]
          simp
      | cons y more =>
          have comma : ∀ ts, nestingFrom level (.comma :: ts) = nestingFrom level ts :=
            fun _ => rfl
          rw [intercalate_map_cons, List.append_assoc, first, List.cons_append, comma, ih later]
          omega

theorem nestingFrom_tokens {n : Node} (h : Plain n) (level : Nat) (rest : List Token) :
    nestingFrom level (tokens n ++ rest) = max (level + n.depth) (nestingFrom level rest) := by
  have bare : ∀ level rest, max level (nestingFrom level rest) = nestingFrom level rest :=
    fun _ rest => Nat.max_eq_right (le_nestingFrom rest)
  induction h generalizing level rest with
  | null => exact (bare level rest).symm
  | bool b => exact (bare level rest).symm
  | whole _ _ => exact (bare level rest).symm
  | text s => exact (bare level rest).symm
  | @list items _ ih =>
      have inside := nestingFrom_joined (fun n hn => ih n hn (level + 1)) (.closeList :: rest)
      have opened : nestingFrom level (tokens (.list items) ++ rest) =
          max level (nestingFrom (level + 1)
            ([.comma].intercalate (items.map tokens) ++ .closeList :: rest)) := by
        rw [tokens, tokensAll_eq, List.append_assoc]
        rfl
      have closed : nestingFrom (level + 1) (.closeList :: rest) =
          max (level + 1) (nestingFrom level rest) := rfl
      rw [opened, inside, closed, depth, depthOfAll_eq]
      omega
  | @table entries _ ih =>
      have each : ∀ entry ∈ entries, ∀ rest, nestingFrom (level + 1) (entryTokens entry ++ rest) =
          max (level + 1 + entry.2.depth) (nestingFrom (level + 1) rest) :=
        fun entry he => ih entry he (level + 1)
      have inside := nestingFrom_joined each (.closeTable :: rest)
      have opened : nestingFrom level (tokens (.table entries) ++ rest) =
          max level (nestingFrom (level + 1)
            ([.comma].intercalate (entries.map entryTokens) ++ .closeTable :: rest)) := by
        rw [tokens, tokensEntries_eq, List.append_assoc]
        rfl
      have closed : nestingFrom (level + 1) (.closeTable :: rest) =
          max (level + 1) (nestingFrom level rest) := rfl
      rw [opened, inside, closed, depth, depthOfEntries_eq]
      omega

theorem nesting_compact {n : Node} (h : Plain n) : nesting (compact n) = n.depth := by
  have all := nestingFrom_tokens h 0 []
  rw [List.append_nil, Nat.zero_add] at all
  rw [nesting, tokens?_compact h, Option.elim_some, all]
  exact Nat.max_zero _

end BoundSql.Json
