import BoundSql.Condition.Basic
import BoundSql.Operator

/-! Columns, from which comparisons are built without spelling an operator. -/
namespace BoundSql

/-- A column by its name, which may carry the name of its table. -/
structure Column where
  name : String

namespace Column

def compare (c : Column) (op : Operator) (value : Value) : Condition := .leaf c.name op.sql value

def equals (c : Column) (value : Value) : Condition := c.compare .equal value

def differs (c : Column) (value : Value) : Condition := c.compare .notEqual value

def above (c : Column) (value : Value) : Condition := c.compare .greater value

def below (c : Column) (value : Value) : Condition := c.compare .less value

def atLeast (c : Column) (value : Value) : Condition := c.compare .greaterOrEqual value

def atMost (c : Column) (value : Value) : Condition := c.compare .lessOrEqual value

/-- A match with a pattern, bound as it is given. -/
def like (c : Column) (pattern : String) : Condition := c.compare .like (.text pattern)

/-- A match with a pattern that does not look at the case of letters. -/
def iLike (c : Column) (pattern : String) : Condition := c.compare .iLike (.text pattern)

/-- A match with any text before and after a given one. Wildcards in the given text keep their
meaning. -/
def contains (c : Column) (needle : String) : Condition :=
  c.compare .like (.text ("%" ++ needle ++ "%"))

def isIn (c : Column) (values : List Value) : Condition := c.compare .isIn (.list values)

def notIn (c : Column) (values : List Value) : Condition := c.compare .notIn (.list values)

def between (c : Column) (low high : Value) : Condition := c.compare .between (.list [low, high])

def isNull (c : Column) : Condition := c.compare .isNull .null

def isNotNull (c : Column) : Condition := c.compare .isNotNull .null

def ascending (c : Column) : String := c.name ++ " ASC"

def descending (c : Column) : String := c.name ++ " DESC"

end Column
end BoundSql
