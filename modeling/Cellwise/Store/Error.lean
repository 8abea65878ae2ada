import Cellwise.Row.Cell

/-!
# Failures of a store
-/

namespace Cellwise

/-- Why a store cannot do what it is asked to. -/
inductive StoreError where
  | tableNotFound (table : String)
  | unknownColumn (table column : String)
  | kindMismatch (table column : String) (expected actual : CellKind)
  | missingKey (table column : String)
  | invalidKeyspace (name reason : String)
  | lockPoisoned (reason : String)
  deriving DecidableEq, Repr

/-- The wording of a failure. -/
def StoreError.message : StoreError → String
  | tableNotFound table => "table not found: " ++ table
  | unknownColumn table column => "unknown column " ++ column ++ " in table " ++ table
  | kindMismatch table column expected actual =>
    "column " ++ column ++ " in table " ++ table ++ " expects " ++ expected.describe ++
      ", got " ++ actual.describe
  | missingKey table column => "row for table " ++ table ++ " has no key column " ++ column
  | invalidKeyspace name reason =>
    "invalid keyspace name " ++ Text.quoted name ++ ": " ++ reason
  | lockPoisoned reason => "lock poisoned: " ++ reason

end Cellwise
