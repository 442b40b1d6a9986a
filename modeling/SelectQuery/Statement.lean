/-!
# Statements

What a query asks for: columns of a table, all of its rows or those that meet one condition; and the
text of a statement, which reads back as the statement.
-/

namespace SelectQuery

/-- How a condition compares. -/
inductive Comparison where
  | equal
  | greaterThan
  | lessThan
  deriving DecidableEq, Repr

/-- The sign of the comparison. -/
def Comparison.display : Comparison → String
  | .equal => "="
  | .greaterThan => ">"
  | .lessThan => "<"

/-- What a condition compares a column with. Any kind of value goes with any column. -/
inductive Literal where
  | number (digits : String)
  | string (text : String)
  deriving DecidableEq, Repr

namespace Literal

/-- The value without quotes. -/
def text : Literal → String
  | number digits => digits
  | string text => text

/-- The value as it stands in a statement: a string is put between quotes as it is. -/
def display : Literal → String
  | number digits => digits
  | string text => "'" ++ text ++ "'"

end Literal

/-- The comparison of a column with a value. -/
structure Condition where
  column : String
  comparison : Comparison
  value : Literal
  deriving DecidableEq, Repr

/-- The condition as it stands in a statement. -/
def Condition.display (c : Condition) : String :=
  c.column ++ " " ++ c.comparison.display ++ " " ++ c.value.display

/-- Columns of a table, in order, under a condition if there is one. The column `*` stands for all
    of them. -/
structure Statement where
  columns : List String
  table : String
  condition : Option Condition
  deriving DecidableEq, Repr

namespace Statement

/-- The columns with a comma and a space between them. -/
def columnsDisplay (st : Statement) : String :=
  ", ".intercalate st.columns

/-- The text of the statement. -/
def display (st : Statement) : String :=
  "SELECT " ++ st.columnsDisplay ++ " FROM " ++ st.table ++
    match st.condition with
    | none => ""
    | some c => " WHERE " ++ c.display

end Statement

end SelectQuery
