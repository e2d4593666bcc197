import BoundSql.Data.Node

/-! Readings of a tree that all shapes of documents are made of: single values, lists, the fields
of a record, and the variants of a choice. A record may be written as a table, or as the list of
its fields in their order. -/
namespace BoundSql.Shape

/-- The decisions in which the two notations of documents differ. -/
structure Dialect where
  /-- Whether a record that is written as a list may have more elements than fields. -/
  spareElements : Bool
  /-- Whether the record of a variant may have no other keys than those of its fields. -/
  closedVariants : Bool
  /-- What may be written after the key of a variant that holds nothing. -/
  isNothing : Node → Bool

/-- JSON: neither spare elements nor closed variants, and null for nothing. -/
def Dialect.json : Dialect where
  spareElements := false
  closedVariants := false
  isNothing
    | .null => true
    | _ => false

/-- TOML: spare elements and closed variants, and an empty list or table for nothing. -/
def Dialect.toml : Dialect where
  spareElements := true
  closedVariants := true
  isNothing
    | .list items => items.isEmpty
    | .table entries => entries.isEmpty
    | _ => false

def text? : Node → Option String
  | .text s => some s
  | _ => none

def bool? : Node → Option Bool
  | .bool b => some b
  | _ => none

/-- A whole number that sixty-four bits without a sign can hold. -/
def count? : Node → Option UInt64
  | .whole (.ofNat n) => if n < UInt64.size then some (.ofNat n) else none
  | _ => none

/-- A list, all of whose items can be read. -/
def listOf {α : Type} (item : Node → Option α) : Node → Option (List α)
  | .list items => items.mapM item
  | _ => none

/-- A table with any keys, all of whose values can be read. -/
def tableOf {α : Type} (value : Node → Option α) : Node → Option (List (String × α))
  | .table entries => entries.mapM fun (key, n) => (value n).map (key, ·)
  | _ => none

def required {α : Type} (value : Node → Option α) (field : Option Node) : Option α :=
  field.bind value

/-- A field that may be left out. -/
def orElse {α : Type} (absent : α) (value : Node → Option α) : Option Node → Option α
  | none => some absent
  | some n => value n

/-- A field that may be left out or null. -/
def optional {α : Type} (value : Node → Option α) : Option Node → Option (Option α)
  | none => some none
  | some .null => some none
  | some n => (value n).map some

/-- The value under one of the names of a field, of which only one may occur, and once. -/
def field? (names : List String) (entries : List (String × Node)) : Option (Option Node) :=
  match entries.filter (fun entry => names.contains entry.1) with
  | [] => some none
  | [entry] => some (some entry.2)
  | _ => none

/-- The elements of a list as fields, of which there are so many. -/
def elements (count : Nat) (items : List Node) : List (Option Node) :=
  (List.range count).map fun i => items[i]?

/-- The fields of a record, each given by its names. Other keys are passed over. -/
def fields? (spareElements : Bool) (names : List (List String)) : Node → Option (List (Option Node))
  | .table entries => names.mapM (field? · entries)
  | .list items =>
    if items.length ≤ names.length || spareElements then some (elements names.length items)
    else none
  | _ => none

/-- Whether a table has no other keys than the given names. -/
def isClosed (names : List (List String)) : Node → Bool
  | .table entries => entries.all fun entry => names.flatten.contains entry.1
  | _ => true

/-- The name of a variant, and what it holds. -/
def variant? : Node → Option (String × Option Node)
  | .text name => some (name, none)
  | .table [(name, n)] => some (name, some n)
  | _ => none

/-- The name of a variant that holds nothing. -/
def bareVariant? (isNothing : Node → Bool) (n : Node) : Option String :=
  match variant? n with
  | some (name, none) => some name
  | some (name, some content) => if isNothing content then some name else none
  | none => none

end BoundSql.Shape
