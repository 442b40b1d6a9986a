import SelectQuery.Diagnostic
import SelectQuery.Log
import SelectQuery.Table

/-!
# Evaluation

A text is evaluated as a query, or only cut into tokens. Either gives an answer that can be shown,
and records for the log.
-/

namespace SelectQuery

/-- What came of a text. -/
inductive Answer where
  /-- The text cannot be read. -/
  | failure (source : String) (error : QueryError)
  /-- The text was only cut into tokens. -/
  | tokens (tokens : List Token)
  /-- The text is a statement; its tokens are kept if they are to be shown. -/
  | statement (statement : Statement) (tokens : Option (List Token))
  deriving DecidableEq, Repr

namespace Answer

/-- Whether the text could be read. -/
def isOk : Answer → Bool
  | failure _ _ => false
  | _ => true

/-- The answer as it is shown, without a line feed at the end, where `draw` draws tables. -/
def text (draw : Table → String) : Answer → String
  | failure source e => renderError source e
  | tokens ts => draw (.ofTokens ts)
  | statement st none => draw (.ofStatement st) ++ "\n" ++ st.display
  | statement st (some ts) =>
    draw (.ofTokens ts) ++ "\n" ++ draw (.ofStatement st) ++ "\n" ++ st.display

end Answer

/-- Evaluates a text as a query, and keeps its tokens if they are to be shown. -/
def evaluate (showTokens : Bool) (input : String) : Answer :=
  match tokenize input with
  | .error e => .failure input e
  | .ok ts =>
    match parse ts with
    | .error e => .failure input e
    | .ok st => .statement st (if showTokens then some ts else none)

/-- Cuts a text into tokens. -/
def evaluateTokens (input : String) : Answer :=
  match tokenize input with
  | .error e => .failure input e
  | .ok ts => .tokens ts

/-- The records of cutting a text into tokens. -/
def tokenRecords (input : String) : List LogRecord :=
  (scan 0 input.toList).records

/-- The records of evaluating a text as a query. -/
def evaluationRecords (input : String) : List LogRecord :=
  .ofInput input :: tokenRecords input ++
    match tokenize input with
    | .error _ => []
    | .ok ts => (parseAt ts 0).records

end SelectQuery
