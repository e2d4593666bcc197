import BoundSql.Value

/-! Condition trees: comparisons, and groups of conditions under a connective. -/
namespace BoundSql

inductive Connective where
  | and
  | or
deriving DecidableEq

def Connective.sql : Connective → String
  | and => "AND"
  | or => "OR"

/-- A field, an operator and a value. The two texts come as they were given and are checked only
when the condition is compiled. -/
structure Comparison where
  field : String
  operator : String
  value : Value

/-- A condition on rows. A group without a connective combines its members with AND. -/
inductive Condition where
  | comparison (c : Comparison)
  | group (connective : Option Connective) (members : List Condition)

namespace Condition

def leaf (field operator : String) (value : Value) : Condition :=
  comparison ⟨field, operator, value⟩

def all (members : List Condition) : Condition := group (some .and) members

def any (members : List Condition) : Condition := group (some .or) members

def isLeaf : Condition → Bool
  | comparison _ => true
  | group _ _ => false

/-- Adds a condition under a connective: at the end of a group that already has the connective,
and otherwise in a new group of the two. -/
def combine (connective : Connective) (self other : Condition) : Condition :=
  match self with
  | group given members =>
    if given.getD .and = connective then group given (members ++ [other])
    else group (some connective) [self, other]
  | comparison _ => group (some connective) [self, other]

def and (self other : Condition) : Condition := self.combine .and other

def or (self other : Condition) : Condition := self.combine .or other

def narrow (filter : Option Condition) (condition : Condition) : Option Condition :=
  match filter with
  | some existing => some (existing.and condition)
  | none => some condition

end Condition
end BoundSql
