import Cellwise.Json.Form

/-!
# Records and sums

A record reads from an object, field by field as the members come, or from an array that lists its
fields in the order of declaration. Members that are no fields are skipped, and a field may not
come twice. A sum reads from the name of a variant, or from an object whose only member is named
for the variant and holds its content.
-/

namespace Cellwise.Json

open Reader

variable {α σ : Type}

/-! ## Records -/

/-- One field of a record that is being read into a state. -/
structure Slot (σ : Type) where
  name : String
  isFilled : σ → Bool
  /-- Reads the value of the field into the state. -/
  fill : (depth : Nat) → σ → Reader σ

/-- How a record is read: its name in messages, its fields in the order of declaration, and what
becomes of the state in the end. -/
structure RecordForm (σ α : Type) where
  title : String
  start : σ
  slots : List (Slot σ)
  /-- May an array end before the last field? -/
  mayEndEarly : Bool
  finish : σ → Except Mismatch α

namespace RecordForm

/-- The title with the number of fields, as messages about arrays give it. -/
def titleWithCount (form : RecordForm σ α) : String :=
  let count := form.slots.length
  form.title ++ " with " ++ Text.ofInt count ++ (if count = 1 then " element" else " elements")

/-- Ends the reading of a record. -/
def finishReading (form : RecordForm σ α) (state : σ) : Reader α :=
  match form.finish state with
  | .ok a => pure a
  | .error what => mismatch what

/-- Reads one member of an object into the state. -/
def member (form : RecordForm σ α) (depth : Nat) (state : σ) : Reader σ := do
  drop
  let name ← stringContent
  match form.slots.find? fun slot => slot.name = name with
  | some slot =>
    -- A field that comes again is refused before its value is looked at.
    if slot.isFilled state then mismatch (.duplicateField name)
    else
      colon
      slot.fill depth state
  | none =>
    colon
    skipValue
    pure state

/-- Reads the fields in the order of declaration; `index` of them are before these. -/
def fillInOrder (form : RecordForm σ α) (depth : Nat) : Nat → List (Slot σ) → σ → Reader σ
  | _, [], state => pure state
  | index, slot :: slots, state => do
    if ← itemFollows (index = 0) then
      let state ← slot.fill depth state
      fillInOrder form depth (index + 1) slots state
    else if form.mayEndEarly then pure state
    else mismatch (.invalidLength index form.titleWithCount)

/-- Reads a record from an object or an array. -/
def read (form : RecordForm σ α) (depth : Nat) : Reader α := do
  let next ← peek
  if next = some '\x7b' then
    nested
      (fun depth => do
        let state ← members (form.member depth) form.start
        -- Missing fields are noticed before the closing brace is taken.
        let a ← form.finishReading state
        closeObject
        pure a)
      depth
  else if next = some '[' then
    nested
      (fun depth => do
        let state ← form.fillInOrder depth 0 form.slots form.start
        let a ← form.finishReading state
        closeArray
        pure a)
      depth
  else unexpected form.title

end RecordForm

/-- A field whose value is kept in an optional part of the state. -/
def Slot.ofOption {β : Type} (name : String) (get : σ → Option β) (set : Option β → σ → σ)
    (read : (depth : Nat) → Reader β) : Slot σ where
  name
  isFilled state := (get state).isSome
  fill depth state := do
    let value ← read depth
    pure (set (some value) state)

/-- The value of a field that has to be there. -/
def require {β : Type} (name : String) : Option β → Except Mismatch β
  | some value => .ok value
  | none => .error (.missingField name)

/-! ## Sums -/

/-- What a variant holds. -/
inductive Content (α : Type) where
  /-- Nothing: the name says it all. -/
  | nothing (value : α)
  /-- A value of a kind that messages name. -/
  | something (kind : String) (read : (depth : Nat) → Reader α)

/-- The variants of a sum under their names. -/
abbrev Variants (α : Type) := List (String × Content α)

namespace Variants

/-- Finds a variant by its name. -/
def find (variants : Variants α) (name : String) : Reader (Content α) :=
  match variants.lookup name with
  | some content => pure content
  | none => mismatch (.unknownVariant name (variants.map (·.1)))

/-- Reads the name of the variant that an object stands for. -/
def bracketedName : Reader String := do
  match ← peek with
  | none => fail .unfinished
  | some c =>
    if c = '"' then
      drop
      stringContent
    else fail .malformed

/-- Reads the one member of an object that stands for a variant with its content. -/
def bracketed (variants : Variants α) (depth : Nat) : Reader α := do
  let name ← bracketedName
  let content ← variants.find name
  colon
  match content with
  | .nothing value =>
    let _ : Unit ← Form.read depth
    pure value
  | .something _ read => read depth

/-- Reads a value of a sum. -/
def read (variants : Variants α) (depth : Nat) : Reader α := do
  match ← peek with
  | none => fail .unfinished
  | some c =>
    if c = '"' then
      drop
      let name ← stringContent
      match ← variants.find name with
      | .nothing value => pure value
      | .something kind _ => mismatch (.invalidType .unitVariant kind)
    else if c = '\x7b' then
      nested
        (fun depth => do
          let a ← variants.bracketed depth
          closeObject
          pure a)
        depth
    else fail .malformed

end Variants

end Cellwise.Json
