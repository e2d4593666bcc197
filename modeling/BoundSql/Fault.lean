import BoundSql.Text.Digits
import BoundSql.Text.Quoted

/-! The reasons why a query does not compile, and their wording. -/
namespace BoundSql

inductive ComparisonFault where
  | noField (operator : String)
  | noOperator (field : String)
  | unaryWithValue (operator field : String)
  | noMembers (operator field : String)
  | notTwoBounds (field : String)
deriving DecidableEq

inductive Absence where
  | noRows
  | noColumns (table : String)
  | noConflictColumns
  | noAssignments (table : String)
  | noBody (name : String)
deriving DecidableEq

/-- Why a query does not compile. No part of a statement ever accompanies a fault. -/
inductive Fault where
  | invalidIdentifier (name : String)
  | invalidTableName (name : String)
  | invalidOperator (text : String)
  | malformedCondition (fault : ComparisonFault)
  | emptyInput (absence : Absence)
  | schemaMismatch (row : Nat) (expected found : String)
  | duplicateColumn (row : Nat) (column : String)
  | missingJoinCondition (kind table : String)
deriving DecidableEq

open Text (quoted ofNat)

def ComparisonFault.message : ComparisonFault → String
  | noField operator => "operator " ++ quoted operator ++ " has no field"
  | noOperator field => "field " ++ quoted field ++ " has no operator"
  | unaryWithValue operator field => operator ++ " on " ++ quoted field ++ " takes no value"
  | noMembers operator field => operator ++ " on " ++ quoted field ++ " needs at least one value"
  | notTwoBounds field => "BETWEEN on " ++ quoted field ++ " needs exactly two values"

def Absence.message : Absence → String
  | noRows => "no rows to insert"
  | noColumns table => "first row for " ++ quoted table ++ " has no columns"
  | noConflictColumns => "ON CONFLICT DO UPDATE needs target and update columns"
  | noAssignments table => "update of " ++ quoted table ++ " has no assignments"
  | noBody name => "common table expression " ++ quoted name ++ " has no body"

def Fault.message : Fault → String
  | invalidIdentifier name => "Invalid identifier: " ++ quoted name
  | invalidTableName name => "Invalid table name: " ++ quoted name
  | invalidOperator text => "Invalid operator: " ++ quoted text
  | malformedCondition fault => "Malformed condition: " ++ fault.message
  | emptyInput absence => "Empty input: " ++ absence.message
  | schemaMismatch row expected found =>
    "Row " ++ ofNat row ++ " does not match the batch schema: expected " ++ expected ++
      ", found " ++ found
  | duplicateColumn row column =>
    "Row " ++ ofNat row ++ " lists column " ++ quoted column ++ " more than once"
  | missingJoinCondition kind table =>
    kind ++ " JOIN on " ++ quoted table ++ " has no ON condition"

end BoundSql
