import Cellwise.Entity.FieldText
import Cellwise.Row.Basic

/-!
# Writing rows

A row is written by calls, one for each field. A field without a value and a collection without
elements leave their column as it is, and a call that fails leaves the row as it is.
-/

namespace Cellwise

/-- A call that writes one field into a row. -/
inductive WriteCall (κ : Type) [FieldFamily κ] where
  /-- Writes the key; no converter is asked. -/
  | key (column text : String)
  /-- Writes one value, if there is one. -/
  | scalar (column : String) (k : κ) (value : Option (Value k))
  /-- Writes values in their order. -/
  | list (column : String) (k : κ) (values : List (Value k))
  /-- Writes the distinct texts of values. -/
  | set (column : String) (k : κ) (values : List (Value k))

variable {κ : Type} [FieldFamily κ]

/-- The stored texts of values, up to the first that has none. -/
def encodeAll (registry : Registry κ) (column : String) (k : κ) (values : List (Value k)) :
    Except MappingError (List String) :=
  values.mapM (encodeField registry column k)

/-- Puts a cell into a column. -/
def Row.put (column : String) (cell : Cell) : Action Row MappingError Unit :=
  Action.modify fun row => row.insert column cell

namespace WriteCall

/-- The column that a call writes. -/
def column : WriteCall κ → String
  | key column _ => column
  | scalar column _ _ => column
  | list column _ _ => column
  | set column _ _ => column

/-- Performs a call. -/
def perform (registry : Registry κ) : WriteCall κ → Action Row MappingError Unit
  | key column text => Row.put column (.text text)
  | scalar column k value =>
    match value with
    | none => pure ()
    | some value => do
      let stored ← Action.ofExcept (encodeField registry column k value)
      Row.put column (.text stored)
  | list column k values => do
    let stored ← Action.ofExcept (encodeAll registry column k values)
    if stored.isEmpty then pure () else Row.put column (.list stored)
  | set column k values => do
    let stored ← Action.ofExcept (encodeAll registry column k values)
    if stored.isEmpty then pure () else Row.put column (.set (.ofList stored))

/-- Performs calls one after another, up to the first that fails. -/
def performAll (registry : Registry κ) : List (WriteCall κ) → Action Row MappingError Unit
  | [] => pure ()
  | call :: calls => do
    call.perform registry
    performAll registry calls

/-- Performs calls one after another and tells for each how it went; one that fails does not keep
the next from being performed. -/
def performEach (registry : Registry κ) :
    List (WriteCall κ) → Action Row MappingError (List (Except MappingError Unit))
  | [] => pure []
  | call :: calls => do
    let result ← Action.attempt (call.perform registry)
    let results ← performEach registry calls
    pure (result :: results)

end WriteCall

/-- The row that calls write, beginning with none. -/
def Row.ofCalls (registry : Registry κ) (calls : List (WriteCall κ)) : Report MappingError Row := do
  let (_, row) ← Action.inside (∅ : Row) (WriteCall.performAll registry calls)
  pure row

end Cellwise
