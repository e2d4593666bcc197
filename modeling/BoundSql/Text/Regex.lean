/-! Regular expressions that are searched for in texts: characters of given classes in a row, some
of them any number of times, and anchors at either end. -/
namespace BoundSql

/-- A class of characters, as ranges from one character to another. -/
abbrev Regex.Class := List (Char × Char)

/-- One item of a regular expression. -/
inductive Regex.Item where
  /-- The start of the text. -/
  | start
  /-- The end of the text. -/
  | finish
  | one (members : Class)
  /-- Any number of characters of a class. -/
  | many (members : Class)

/-- Items in a row. -/
abbrev Regex := List Regex.Item

namespace Regex

def Class.holds (members : Class) (c : Char) : Bool :=
  members.any fun (first, last) => first ≤ c && c ≤ last

/-- Skips any number of characters of a class before the rest is looked at. -/
def skipping (members : Class) (next : Bool → List Char → Bool) (atStart : Bool) :
    List Char → Bool
  | [] => next atStart []
  | c :: rest => next atStart (c :: rest) || members.holds c && skipping members next false rest

/-- Whether the items match right here, which may be the start of the text. -/
def matchesHere : Regex → Bool → List Char → Bool
  | [], _, _ => true
  | .start :: later, atStart, cs => atStart && matchesHere later atStart cs
  | .finish :: later, atStart, cs => cs.isEmpty && matchesHere later atStart cs
  | .one members :: later, _, cs =>
    match cs with
    | [] => false
    | c :: rest => members.holds c && matchesHere later false rest
  | .many members :: later, atStart, cs => skipping members (matchesHere later) atStart cs

/-- Whether the items match here or later on. -/
def matchesFrom (items : Regex) (atStart : Bool) : List Char → Bool
  | [] => items.matchesHere atStart []
  | c :: rest => items.matchesHere atStart (c :: rest) || matchesFrom items false rest

/-- Whether a text has a match anywhere. -/
def isMatch (items : Regex) (cs : List Char) : Bool := items.matchesFrom true cs

end Regex
end BoundSql
