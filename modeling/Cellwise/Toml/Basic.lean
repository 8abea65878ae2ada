/-!
# TOML documents

* `Toml` is a value. The entries of a table keep the order in which they first appear.
* `Toml.Node` is a document while it is put together: its tables remember how they came to be, since
  that decides on who may still add to them.
* `Toml.Entries` operations put a key with its value, a table header, and a header of one more
  table of an array into the document, or refuse to.

Floats and moments (dates and times) are kept as they are written.
-/

namespace Cellwise

/-- A value of a document. -/
inductive Toml where
  | string (s : String)
  | integer (n : Int)
  | float (numeral : String)
  | bool (b : Bool)
  | moment (text : String)
  | array (items : List Toml)
  | table (entries : List (String × Toml))

namespace Toml

instance : Inhabited Toml := ⟨bool false⟩

/-- How a table came to be. -/
inductive Origin where
  /-- Its own header. Its entries are complete but for tables that headers add. -/
  | header
  /-- The header of a table below it; its own header may still follow. -/
  | implied
  /-- A dotted key; only dotted keys may add entries. -/
  | dotted
  deriving DecidableEq, Repr

/-- A part of a document that is being put together. -/
inductive Node where
  /-- A value, to which nothing can be added. -/
  | value (value : Toml)
  | table (origin : Origin) (entries : List (String × Node))
  /-- The tables of an array, the last one first. -/
  | rows (rows : List (List (String × Node)))

/-- The entries of a table that is being put together. -/
abbrev Entries := List (String × Node)

mutual
/-- The value that a part of a document ends up as. -/
def Node.toToml : Node → Toml
  | .value value => value
  | .table _ entries => .table (entriesToToml entries)
  | .rows rows => .array (rowsToToml rows).reverse
termination_by structural node => node

/-- The entries that those of a table end up as. -/
def entriesToToml : Entries → List (String × Toml)
  | [] => []
  | (key, node) :: entries => (key, node.toToml) :: entriesToToml entries
termination_by structural entries => entries

/-- The tables that those of an array end up as, in the same order. -/
def rowsToToml : List Entries → List Toml
  | [] => []
  | row :: rows => .table (entriesToToml row) :: rowsToToml rows
termination_by structural rows => rows
end

namespace Entries

/-- Adds an entry behind the others. -/
def add (entries : Entries) (key : String) (node : Node) : Entries := entries ++ [(key, node)]

/-- Puts a part in the place of the one under a key. -/
def replace (entries : Entries) (key : String) (node : Node) : Entries :=
  entries.map fun entry => if entry.1 = key then (key, node) else entry

/-- Changes the table at the end of a path; the change is told how that table came to be. Tables
that are missing on the way are made, and the last table of an array stands for the array. A path
of dotted keys does not pass a table that has a header. -/
def within (dotted : Bool) (change : Origin → Entries → Option Entries) :
    List String → Origin → Entries → Option Entries
  | [], origin, entries => change origin entries
  | key :: path, _, entries =>
    match entries.lookup key with
    | none => do
      let origin := if dotted then .dotted else .implied
      let below ← within dotted change path origin []
      pure (entries.add key (.table origin below))
    | some (.value _) => none
    | some (.table origin below) =>
      -- Dotted keys do not reach into a table that has a header of its own.
      if dotted && origin = .header then none
      else do
        let below ← within dotted change path origin below
        pure (entries.replace key (.table origin below))
    | some (.rows []) => none
    | some (.rows (last :: rows)) => do
      let last ← within dotted change path .header last
      pure (entries.replace key (.rows (last :: rows)))

/-- Adds a key with its value, the key itself without dots. A table takes a value by a plain key
exactly if no dotted key made it. -/
def addValue (plain : Bool) (key : String) (value : Toml) (origin : Origin) (entries : Entries) :
    Option Entries :=
  if (origin = .dotted) = plain then none
  else if (entries.lookup key).isSome then none
  else some (entries.add key (.value value))

/-- Adds a value under a key that may have dots: the keys before the last dot, and the last one. -/
def addPair (entries : Entries) (path : List String) (key : String) (value : Toml) :
    Option Entries :=
  within true (addValue path.isEmpty key value) path .header entries

/-- Opens the table of a header whose last key is `key`. -/
def openTable (key : String) (_ : Origin) (entries : Entries) : Option Entries :=
  match entries.lookup key with
  | none => some (entries.add key (.table .header []))
  -- The table was only mentioned so far; what was put into it stays.
  | some (.table .implied below) => some (entries.replace key (.table .header below))
  | some _ => none

/-- Opens one more table of an array, by a header whose last key is `key`. -/
def openRow (key : String) (_ : Origin) (entries : Entries) : Option Entries :=
  match entries.lookup key with
  | none => some (entries.add key (.rows [[]]))
  | some (.rows rows) => some (entries.replace key (.rows ([] :: rows)))
  | some _ => none

end Entries

/-- What a document is made of, line by line. -/
inductive Statement where
  /-- A value under a key: the keys before the last dot, the last key, and the value. -/
  | pair (path : List String) (key : String) (value : Toml)
  /-- A header. -/
  | table (path : List String) (key : String)
  /-- A header of one more table of an array. -/
  | row (path : List String) (key : String)

/-- Adds a statement to the entries of the whole document; `current` is the path of the last
header. Answers with the path of the last header from here on. -/
def Statement.addTo (current : List String) (entries : Entries) :
    Statement → Option (List String × Entries)
  | .pair path key value => do
    let entries ← Entries.within false
      (fun _ entries => entries.addPair path key value) current .header entries
    pure (current, entries)
  | .table path key => do
    let entries ← Entries.within false (Entries.openTable key) path .header entries
    pure (path ++ [key], entries)
  | .row path key => do
    let entries ← Entries.within false (Entries.openRow key) path .header entries
    pure (path ++ [key], entries)

/-- The table that statements make up. -/
def ofStatements (statements : List Statement) : Option Toml := do
  let (_, entries) ← statements.foldlM
    (fun (current, entries) statement => statement.addTo current entries) ([], [])
  pure (.table (entriesToToml entries))

/-- The table between braces that pairs make up. -/
def ofPairs (pairs : List (List String × String × Toml)) : Option Toml := do
  let entries ← pairs.foldlM
    (fun (entries : Entries) (path, key, value) => entries.addPair path key value) []
  pure (.table (entriesToToml entries))

end Toml

end Cellwise
