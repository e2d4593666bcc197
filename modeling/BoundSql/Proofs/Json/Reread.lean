import BoundSql.Data.Json.Reader
import BoundSql.Proofs.Json.Printed

/-! Tokens of a tree read back into the tree, as long as it is not nested too deep. -/
namespace BoundSql.Json
open Node

variable {frames : List Frame}

theorem close_of_room (n : Node) (room : frames.length < depthLimit) :
    close n true frames = place n frames := by
  rw [close, if_pos (by simpa using room)]

theorem readFrom_closeList {expected : Expected} (room : frames.length < depthLimit)
    (at_end : expected = .valueOrEnd ∨ expected = .commaOrEnd) (items : List Node)
    (rest : List Token) :
    readFrom expected (.list items :: frames) (.closeList :: rest) =
      readFrom (place (.list items.reverse) frames).1 (place (.list items.reverse) frames).2
        rest := by
  rw [← close_of_room _ room]
  obtain rfl | rfl := at_end <;> rfl

theorem readFrom_closeTable {expected : Expected} (room : frames.length < depthLimit)
    (at_end : expected = .keyOrEnd ∨ expected = .commaOrEnd) (entries : List (String × Node))
    (key : String) (rest : List Token) :
    readFrom expected (.table entries key true :: frames) (.closeTable :: rest) =
      readFrom (place (.table entries.reverse) frames).1 (place (.table entries.reverse) frames).2
        rest := by
  rw [← close_of_room _ room]
  obtain rfl | rfl := at_end <;> rfl

theorem readFrom_comma_list (items : List Node) (rest : List Token) :
    readFrom .commaOrEnd (.list items :: frames) (.comma :: rest) =
      readFrom .value (.list items :: frames) rest :=
  rfl

theorem readFrom_comma_table (entries : List (String × Node)) (key : String)
    (rest : List Token) :
    readFrom .commaOrEnd (.table entries key true :: frames) (.comma :: rest) =
      readFrom .key (.table entries key true :: frames) rest :=
  rfl

/-- Where a list may end, an item may come as well. -/
theorem readFrom_valueOrEnd {items : List Node} (present : items ≠ []) (rest : List Token) :
    readFrom .valueOrEnd frames ([.comma].intercalate (items.map tokens) ++ rest) =
      readFrom .value frames ([.comma].intercalate (items.map tokens) ++ rest) := by
  have first : ∀ n ts, readFrom .valueOrEnd frames (tokens n ++ ts) =
      readFrom .value frames (tokens n ++ ts) := fun n ts => by cases n <;> rfl
  match items with
  | [] => exact absurd rfl present
  | [n] => rw [List.map_singleton, List.intercalate_singleton, first]
  | n :: m :: more => rw [intercalate_map_cons, List.append_assoc, first]

/-- The items of a list one after the other, given that each is added to those before it. -/
theorem readFrom_items {items : List Node} (present : items ≠ [])
    (each : ∀ n ∈ items, ∀ taken rest,
      readFrom .value (.list taken :: frames) (tokens n ++ rest) =
        readFrom .commaOrEnd (.list (n :: taken) :: frames) rest)
    (taken : List Node) (rest : List Token) :
    readFrom .value (.list taken :: frames)
        ([.comma].intercalate (items.map tokens) ++ rest) =
      readFrom .commaOrEnd (.list (items.reverse ++ taken) :: frames) rest := by
  induction items generalizing taken with
  | nil => exact absurd rfl present
  | cons n items ih =>
      obtain ⟨first, others⟩ := List.forall_mem_cons.mp each
      cases items with
      | nil =>
          rw [List.map_singleton, List.intercalate_singleton, first]
          rfl
      | cons m more =>
          rw [intercalate_map_cons, List.append_assoc, first, List.cons_append, readFrom_comma_list,
            ih (List.cons_ne_nil m more) others]
          simp

theorem readFrom_keyOrEnd {entries : List (String × Node)} (present : entries ≠ [])
    (taken : List (String × Node)) (key : String) (rest : List Token) :
    readFrom .keyOrEnd (.table taken key true :: frames)
        ([.comma].intercalate (entries.map entryTokens) ++ rest) =
      readFrom .key (.table taken key true :: frames)
        ([.comma].intercalate (entries.map entryTokens) ++ rest) := by
  match entries with
  | [] => exact absurd rfl present
  | [entry] =>
      rw [List.map_singleton, List.intercalate_singleton]
      rfl
  | entry :: next :: more =>
      rw [intercalate_map_cons]
      rfl

/-- The entries of a table, likewise. The table keeps the last of their keys until it is
closed. -/
theorem readFrom_entries {entries : List (String × Node)} (present : entries ≠ [])
    (each : ∀ entry ∈ entries, ∀ taken key rest,
      readFrom .value (.table taken key true :: frames) (tokens entry.2 ++ rest) =
        readFrom .commaOrEnd (.table ((key, entry.2) :: taken) key true :: frames) rest)
    (taken : List (String × Node)) (last : String) (rest : List Token) :
    ∃ key, readFrom .key (.table taken last true :: frames)
        ([.comma].intercalate (entries.map entryTokens) ++ rest) =
      readFrom .commaOrEnd (.table (entries.reverse ++ taken) key true :: frames) rest := by
  induction entries generalizing taken last with
  | nil => exact absurd rfl present
  | cons entry entries ih =>
      obtain ⟨key, n⟩ := entry
      obtain ⟨first, others⟩ := List.forall_mem_cons.mp each
      have start : ∀ more, readFrom .key (.table taken last true :: frames)
          (entryTokens (key, n) ++ more) =
            readFrom .commaOrEnd (.table ((key, n) :: taken) key true :: frames) more :=
        fun more => first taken key more
      cases entries with
      | nil =>
          refine ⟨key, ?_⟩
          rw [List.map_singleton, List.intercalate_singleton]
          exact start rest
      | cons m more =>
          obtain ⟨after, later⟩ := ih (List.cons_ne_nil m more) others ((key, n) :: taken) key
          refine ⟨after, ?_⟩
          rw [intercalate_map_cons, List.append_assoc, start, List.cons_append,
            readFrom_comma_table, later]
          simp

/-- The tokens of a tree have it put where it belongs, whatever follows. -/
theorem readFrom_tokens {n : Node} (h : Plain n) (frames : List Frame) (rest : List Token)
    (room : frames.length + n.depth ≤ depthLimit) :
    readFrom .value frames (tokens n ++ rest) =
      readFrom (place n frames).1 (place n frames).2 rest := by
  induction h generalizing frames rest with
  | null => rfl
  | bool b => rfl
  | whole _ _ => rfl
  | text s => rfl
  | @list items _ ih =>
      have here : frames.length < depthLimit := by
        rw [depth] at room
        omega
      have each : ∀ n ∈ items, ∀ taken rest,
          readFrom .value (.list taken :: frames) (tokens n ++ rest) =
            readFrom .commaOrEnd (.list (n :: taken) :: frames) rest := by
        intro n hn taken rest
        have inside := depth_lt_list n hn
        exact ih n hn (.list taken :: frames) rest (by rw [List.length_cons]; omega)
      have opened : readFrom .value frames (tokens (.list items) ++ rest) =
          readFrom .valueOrEnd (.list [] :: frames)
            ([.comma].intercalate (items.map tokens) ++ .closeList :: rest) := by
        rw [tokens, tokensAll_eq, List.append_assoc]
        rfl
      rw [opened]
      obtain rfl | present := eq_or_ne items []
      · exact readFrom_closeList here (.inl rfl) [] rest
      · rw [readFrom_valueOrEnd present, readFrom_items present each,
          readFrom_closeList here (.inr rfl), List.append_nil, List.reverse_reverse]
  | @table entries _ ih =>
      have here : frames.length < depthLimit := by
        rw [depth] at room
        omega
      have each : ∀ entry ∈ entries, ∀ taken key rest,
          readFrom .value (.table taken key true :: frames) (tokens entry.2 ++ rest) =
            readFrom .commaOrEnd (.table ((key, entry.2) :: taken) key true :: frames) rest := by
        intro entry he taken key rest
        have inside := depth_lt_table entry he
        exact ih entry he (.table taken key true :: frames) rest (by rw [List.length_cons]; omega)
      have opened : readFrom .value frames (tokens (.table entries) ++ rest) =
          readFrom .keyOrEnd (.table [] "" true :: frames)
            ([.comma].intercalate (entries.map entryTokens) ++ .closeTable :: rest) := by
        rw [tokens, tokensEntries_eq, List.append_assoc]
        rfl
      rw [opened]
      obtain rfl | present := eq_or_ne entries []
      · exact readFrom_closeTable here (.inl rfl) [] "" rest
      · obtain ⟨key, taken⟩ := readFrom_entries present each [] "" (.closeTable :: rest)
        rw [readFrom_keyOrEnd present, taken, readFrom_closeTable here (.inr rfl), List.append_nil,
          List.reverse_reverse]

theorem read?_tokens {n : Node} (h : Plain n) (room : n.depth ≤ depthLimit) {text : String}
    (cut : tokens? text = some (tokens n)) : read? text = some n := by
  have all := readFrom_tokens h [] [] (by simpa using room)
  rw [List.append_nil] at all
  rw [read?, cut, Option.bind_some, all]
  rfl

/-- A tree that is printed without loss is read back, unless it is nested too deep. -/
theorem read?_compact {n : Node} (h : Plain n) (room : n.depth ≤ depthLimit) :
    read? (compact n) = some n :=
  read?_tokens h room (tokens?_compact h)

/-- So it is from several lines, with white space behind the last one or none. -/
theorem read?_pretty {n : Node} (h : Plain n) (room : n.depth ≤ depthLimit) (level : Nat)
    {gap : String} (blank : gap.toList.all isSpace) : read? (pretty level n ++ gap) = some n :=
  read?_tokens h room ((lexes_pretty h level).tokens? blank)

end BoundSql.Json
