import Cellwise.Toml.Reader

/-!
# Records in TOML documents

A record is written as a table whose keys are the names of its fields, or as an array of the
values of its fields in the order of declaration. A field that is not given has its usual value.
Keys that are no fields, and items behind the last field, do not count. A moment reads as a record
for which nothing is given.
-/

namespace Cellwise.Toml

variable {α : Type}

/-- The text of a string. -/
def text? : Toml → Option String
  | string s => some s
  | _ => none

/-- The truth value of a truth value. -/
def flag? : Toml → Option Bool
  | bool b => some b
  | _ => none

/-- Can the value be read as a record? -/
def isRecord : Toml → Bool
  | array _ => true
  | table _ => true
  | moment _ => true
  | _ => false

/-- What is given for the field of a name, which is declared behind `index` others. -/
def given? (record : Toml) (index : Nat) (name : String) : Option Toml :=
  match record with
  | array items => items[index]?
  | table entries => entries.lookup name
  | _ => none

/-- The value of a field, or its usual value if none is given. -/
def fieldOr (record : Toml) (index : Nat) (name : String) (usual : α) (read : Toml → Option α) :
    Option α :=
  match record.given? index name with
  | none => some usual
  | some value => read value

end Cellwise.Toml
