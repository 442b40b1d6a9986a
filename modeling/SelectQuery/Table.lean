import SelectQuery.Statement
import SelectQuery.Token

/-!
# Tables

Tokens and statements are shown as tables. A table is made of records of texts, and how it is drawn
is not said here.
-/

namespace SelectQuery

/-- The texts of one record of a table. The records of a table have the same number of them. -/
abbrev Record := List String

/-- The records of a table, from top to bottom. -/
structure Table where
  records : List Record
  deriving DecidableEq, Repr

namespace Table

/-- The record of a token. -/
def tokenRecord (t : Token) : Record :=
  [t.kind.name, t.text, toString t.span.start, toString t.span.length]

/-- A table of tokens, one record each under a head. -/
def ofTokens (ts : List Token) : Table :=
  ⟨["kind", "text", "start", "length"] :: ts.map tokenRecord⟩

/-- A table of the parts of a statement. -/
def ofStatement (st : Statement) : Table :=
  ⟨["columns", st.columnsDisplay] :: ["table", st.table] ::
    match st.condition with
    | none => []
    | some c => [["where", c.display]]⟩

end Table

end SelectQuery
