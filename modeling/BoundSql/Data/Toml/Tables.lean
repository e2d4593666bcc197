import BoundSql.Data.Node

/-! The tables of a TOML text while it is read. A table is told by how it came to be, for that
decides what may be added to it. -/
namespace BoundSql.Toml

/-- How a table came to be. -/
inductive Origin where
  /-- By a header of its own. -/
  | header
  /-- On the way to a table with a header. -/
  | implied
  /-- On the way of a dotted key to its value. -/
  | dotted
deriving DecidableEq

/-- What stands under a key. -/
inductive Item where
  | value (n : Node)
  | table (origin : Origin) (entries : List (String × Item))
  /-- Tables with a header each, the last one first. -/
  | tables (elements : List (List (String × Item)))

/-- The entries of a table, in the order in which their keys came. -/
abbrev Entries := List (String × Item)

/-- The entries with a key changed or, at the end, added. -/
def alter (key : String) (change : Option Item → Option Item) : Entries → Option Entries
  | [] => (change none).map fun item => [(key, item)]
  | (name, item) :: rest =>
    if name = key then (change (some item)).map fun item => (name, item) :: rest
    else (alter key change rest).map ((name, item) :: ·)

/-- Changes the table at the end of a path of headers. Tables on the way are made if they are
missing, and of tables under one key the last one is taken. -/
def alterAt (change : Entries → Option Entries) : List String → Entries → Option Entries
  | [], entries => change entries
  | key :: path, entries =>
    entries |> alter key fun
      | none => (alterAt change path []).map (.table .implied)
      | some (.table origin inner) => (alterAt change path inner).map (.table origin)
      | some (.tables (last :: before)) =>
        (alterAt change path last).map fun last => .tables (last :: before)
      | some _ => none

/-- Begins the table of a header. It may have been on the way to others, but not more. -/
def openTable (path : List String) (key : String) (root : Entries) : Option Entries :=
  root |> alterAt (alter key fun
    | none => some (.table .header [])
    | some (.table .implied entries) => some (.table .header entries)
    | some _ => none) path

/-- Begins one more table under the key of a header. -/
def openElement (path : List String) (key : String) (root : Entries) : Option Entries :=
  root |> alterAt (alter key fun
    | none => some (.tables [[]])
    | some (.tables elements) => some (.tables ([] :: elements))
    | some _ => none) path

/-- Puts a value under a dotted key. No table on the way may have a header, unless it is one of
several, and the last one must have come by dotted keys. -/
def insert (n : Node) : List String → String → Entries → Option Entries
  | [], key, entries =>
    entries |> alter key fun
      | none => some (.value n)
      | some _ => none
  | [step], key, entries =>
    entries |> alter step fun
      | none => (insert n [] key []).map (.table .dotted)
      | some (.table .dotted inner) => (insert n [] key inner).map (.table .dotted)
      | some _ => none
  | step :: path, key, entries =>
    entries |> alter step fun
      | none => (insert n path key []).map (.table .dotted)
      | some (.table .header _) => none
      | some (.table origin inner) => (insert n path key inner).map (.table origin)
      | some (.tables (last :: before)) =>
        (insert n path key last).map fun last => .tables (last :: before)
      | some _ => none

mutual

def Item.node : Item → Node
  | .value n => n
  | .table _ entries => .table (nodesOf entries)
  | .tables elements => .list (tableNodes elements).reverse

def nodesOf : List (String × Item) → List (String × Node)
  | [] => []
  | (key, item) :: rest => (key, item.node) :: nodesOf rest

def tableNodes : List (List (String × Item)) → List Node
  | [] => []
  | entries :: rest => .table (nodesOf entries) :: tableNodes rest

end

end BoundSql.Toml
