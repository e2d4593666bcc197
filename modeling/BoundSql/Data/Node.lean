import BoundSql.Number.Binary64

/-! The tree that both notations of documents, JSON and TOML, are read into, and that is written
as JSON. -/
namespace BoundSql

/-- A piece of a document. Tables keep their entries as they came, repeated keys included. -/
inductive Node where
  | null
  | bool (b : Bool)
  | whole (n : Int)
  | real (x : Binary64)
  | text (s : String)
  | list (items : List Node)
  | table (entries : List (String × Node))
  /-- A piece that is well formed but stands for nothing: a number out of range, a text that no
  characters make up, or a nesting that is too deep. It can be passed over, and that is all. -/
  | unreadable
deriving Inhabited

namespace Node

mutual

/-- The number of lists and tables around the innermost piece. -/
def depth : Node → Nat
  | list items => depthOfAll items + 1
  | table entries => depthOfEntries entries + 1
  | _ => 0

def depthOfAll : List Node → Nat
  | [] => 0
  | n :: rest => max n.depth (depthOfAll rest)

def depthOfEntries : List (String × Node) → Nat
  | [] => 0
  | (_, n) :: rest => max n.depth (depthOfEntries rest)

end

mutual

/-- Whether a piece stands for something, with all that is in it. -/
def isReadable : Node → Bool
  | list items => allReadable items
  | table entries => entriesReadable entries
  | unreadable => false
  | _ => true

def allReadable : List Node → Bool
  | [] => true
  | n :: rest => n.isReadable && allReadable rest

def entriesReadable : List (String × Node) → Bool
  | [] => true
  | (_, n) :: rest => n.isReadable && entriesReadable rest

end

end Node
end BoundSql
