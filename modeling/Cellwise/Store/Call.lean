import Cellwise.Store.Keyspace

/-!
# Calls on a keyspace as data

The operations of a keyspace as calls, and their answers, so that a history of a keyspace is a
list.
-/

namespace Cellwise

/-- A call on a keyspace. -/
inductive StoreCall where
  | createTable (layout : TableLayout)
  | dropTable (table : String)
  | truncate (table : String)
  | upsert (table : String) (row : Row)
  | replace (table : String) (row : Row)
  | select (table key : String) (columns : Option (List String))
  | count (table : String)
  deriving DecidableEq

/-- The answer to a call that succeeds. -/
inductive StoreAnswer where
  | created (new : Bool)
  | dropped (existed : Bool)
  | done
  | row (row : Option Row)
  | count (n : Nat)
  deriving DecidableEq

namespace StoreCall

/-- Performs a call. -/
def perform : StoreCall → StoreAction StoreAnswer
  | createTable layout => do
    let new ← Keyspace.createTable layout
    pure (.created new)
  | dropTable table => do
    let existed ← Keyspace.dropTable table
    pure (.dropped existed)
  | truncate table => do
    Keyspace.truncate table
    pure .done
  | upsert table row => do
    Keyspace.upsert table row
    pure .done
  | replace table row => do
    Keyspace.replace table row
    pure .done
  | select table key columns => do
    let row ← Keyspace.select table key columns
    pure (.row row)
  | count table => do
    let n ← Keyspace.count table
    pure (.count n)

/-- Performs calls one after another, each on what the one before left, and collects the answers
and failures. -/
def performAll : List StoreCall → Keyspace → List (Except StoreError StoreAnswer) × Keyspace
  | [], keyspace => ([], keyspace)
  | call :: calls, keyspace =>
    let outcome := call.perform.run keyspace
    let (answers, last) := performAll calls outcome.state
    (outcome.result :: answers, last)

end StoreCall

end Cellwise
