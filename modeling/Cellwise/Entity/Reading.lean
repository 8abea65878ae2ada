import Cellwise.Entity.FieldText
import Cellwise.Row.Basic

/-!
# Reading rows

The fields of a row are read one by one. A column that the row does not have reads as no value, an
empty list or an empty set, and only a key has to be there. A cell of the wrong kind is a failure.
Elements of a collection that read as absent are left out.

A `ReadPlan` says which fields are read to put something together, where a later step may depend
on what was read before.
-/

namespace Cellwise

variable {κ : Type} [FieldFamily κ]

/-- Where the reading and writing of fields is noted. -/
def fieldTarget : String := "typeconv_mapping::codec"

namespace Row

/-- Reads the key; no converter is asked. -/
def readKey (row : Row) (column : String) : Except MappingError String :=
  match row[column]? with
  | some (.text key) => .ok key
  | some other => .error (.unexpectedCell column .text other.kind)
  | none => .error (.missingColumn column)

/-- Reads one value. -/
def readScalar (registry : Registry κ) (row : Row) (column : String) (k : κ) :
    Report MappingError (Option (Value k)) :=
  match row[column]? with
  | some (.text stored) => decodeField registry column k stored
  | some other => Action.fail (.unexpectedCell column .text other.kind)
  | none => pure none

/-- Reads stored texts one after another, leaving out those that read as absent. -/
def readItems (registry : Registry κ) (column : String) (k : κ) :
    List String → Report MappingError (List (Value k))
  | [] => pure []
  | stored :: rest => do
    match ← decodeField registry column k stored with
    | some value =>
      let values ← readItems registry column k rest
      pure (value :: values)
    | none =>
      Action.log .warn fieldTarget "skipping absent collection element"
        [("column", .quoted column)]
      readItems registry column k rest

/-- Reads values in their order. -/
def readList (registry : Registry κ) (row : Row) (column : String) (k : κ) :
    Report MappingError (List (Value k)) :=
  match row[column]? with
  | some (.list items) => readItems registry column k items
  | some other => Action.fail (.unexpectedCell column .list other.kind)
  | none => pure []

/-- Reads the distinct values of a set. Of texts that read as the same value, the first in order
counts. -/
def readSet (registry : Registry κ) (row : Row) (column : String) (k : κ) :
    Report MappingError (List (Value k)) :=
  match row[column]? with
  | some (.set items) => do
    let values ← readItems registry column k items.toList
    pure (FieldFamily.distinct k values)
  | some other => Action.fail (.unexpectedCell column .set other.kind)
  | none => pure []

end Row

/-- Which fields of a row are read, and what becomes of their values. -/
inductive ReadPlan (κ : Type) [FieldFamily κ] (α : Type) where
  | done (a : α)
  | fail (error : MappingError)
  | key (column : String) (next : String → ReadPlan κ α)
  | scalar (column : String) (k : κ) (next : Option (Value k) → ReadPlan κ α)
  | list (column : String) (k : κ) (next : List (Value k) → ReadPlan κ α)
  | set (column : String) (k : κ) (next : List (Value k) → ReadPlan κ α)

namespace ReadPlan

variable {α β : Type}

/-- Goes on with what a plan puts together. -/
protected def bind : ReadPlan κ α → (α → ReadPlan κ β) → ReadPlan κ β
  | done a, f => f a
  | fail error, _ => fail error
  | key column next, f => key column fun text => (next text).bind f
  | scalar column k next, f => scalar column k fun value => (next value).bind f
  | list column k next, f => list column k fun values => (next values).bind f
  | set column k next, f => set column k fun values => (next values).bind f

instance : Monad (ReadPlan κ) where
  pure := done
  bind := ReadPlan.bind

/-- Reads the key. -/
def getKey (column : String) : ReadPlan κ String := key column done

/-- Reads one value. -/
def getScalar (column : String) (k : κ) : ReadPlan κ (Option (Value k)) := scalar column k done

/-- Reads one value that has to be there. -/
def getRequired (column : String) (k : κ) : ReadPlan κ (Value k) :=
  scalar column k fun
    | some value => done value
    | none => fail (.missingColumn column)

/-- Reads values in their order. -/
def getList (column : String) (k : κ) : ReadPlan κ (List (Value k)) := list column k done

/-- Reads the distinct values of a set. -/
def getSet (column : String) (k : κ) : ReadPlan κ (List (Value k)) := set column k done

/-- Carries out a plan on a row. -/
def run (registry : Registry κ) (row : Row) : ReadPlan κ α → Report MappingError α
  | done a => pure a
  | fail error => Action.fail error
  | key column next => do
    let text ← Action.ofExcept (row.readKey column)
    (next text).run registry row
  | scalar column k next => do
    let value ← row.readScalar registry column k
    (next value).run registry row
  | list column k next => do
    let values ← row.readList registry column k
    (next values).run registry row
  | set column k next => do
    let values ← row.readSet registry column k
    (next values).run registry row

end ReadPlan

end Cellwise
