import Std.Data.ExtTreeMap
import Cellwise.Json.Canonical
import Cellwise.Json.Printer
import Cellwise.Json.Value

/-!
# Types with a JSON form

`Json.Form α` says how a value of `α` becomes JSON and how one is read back from a text. Reading
follows the shape of the type in one pass, so that the first place where text and shape part ways
decides on the fault.

* `Json.print` and `Json.parse` are the two directions for whole texts.
* `Json.canonicalText` writes the members of objects in canonical order instead of the order of
  declaration.
-/

namespace Cellwise.Json

/-- The JSON form of a type. -/
class Form (α : Type) where
  /-- The value as JSON, with members in the order of declaration, or why it has none. -/
  encode : α → Except String Json
  /-- Reads a value in which at most `depth` brackets are open at a time. -/
  read : (depth : Nat) → Reader α

/-- How deeply the brackets of a text may nest. -/
def maxDepth : Nat := 127

variable {α β : Type}

/-- The text of a value. -/
def print [Form α] (a : α) : Except String String := do
  let json ← Form.encode a
  pure json.render

/-- Reads the text of a value. -/
def parse [Form α] (text : String) : Except Fault α :=
  Reader.whole (Form.read maxDepth) text.toList

open Reader

/-! ## Simple types -/

/-- Reads a string; `expected` is what a message calls it. -/
def Reader.string (expected : String) : Reader String := do
  if (← peek) = some '"' then
    drop
    stringContent
  else unexpected expected

/-- Reads a number, or says what else is there. -/
def Reader.numberOr (expected : String) : Reader Number := do
  match ← peek with
  | some c => if beginsNumber c then number else unexpected expected
  | none => fail .unfinished

/-- Reads a whole number from a range that ends below `upper`. -/
def Reader.wholeNumber (expected : String) (lower upper : Int) : Reader Int := do
  match ← numberOr expected with
  | .integer n =>
    if lower ≤ n.val ∧ n.val < upper then pure n.val
    else mismatch (.invalidValue (.integer n.val) expected)
  | .float x => mismatch (.invalidType (.float x) expected)

instance : Form String where
  encode s := .ok (.string s)
  read _ := Reader.string "a string"

instance : Form Bool where
  encode b := .ok (.bool b)
  read _ := do
    let next ← peek
    if next = some 't' then
      word ['t', 'r', 'u', 'e']
      pure true
    else if next = some 'f' then
      word ['f', 'a', 'l', 's', 'e']
      pure false
    else unexpected "a boolean"

instance : Form Unit where
  encode _ := .ok .null
  read _ := do
    if (← peek) = some 'n' then
      word ['n', 'u', 'l', 'l']
    else unexpected "unit"

instance : Form UInt8 where
  encode n := .ok (.integer (.ofUInt8 n))
  read _ := do
    let n ← wholeNumber "u8" 0 256
    pure (UInt8.ofNat n.toNat)

instance : Form UInt32 where
  encode n := .ok (.integer (.ofUInt32 n))
  read _ := do
    let n ← wholeNumber "u32" 0 4294967296
    pure (UInt32.ofNat n.toNat)

instance : Form UInt64 where
  encode n := .ok (.integer (.ofUInt64 n))
  read _ := do
    let n ← wholeNumber "u64" 0 18446744073709551616
    pure (UInt64.ofNat n.toNat)

instance : Form Int32 where
  encode n := .ok (.integer (.ofInt32 n))
  read _ := do
    let n ← wholeNumber "i32" (-2147483648) 2147483648
    pure (Int32.ofInt n)

instance : Form Int64 where
  encode n := .ok (.integer (.ofInt64 n))
  read _ := do
    let n ← wholeNumber "i64" (-9223372036854775808) 9223372036854775808
    pure (Int64.ofInt n)

instance : Form Float where
  encode x := .ok (if Decimal.isFinite x then .float x else .null)
  read _ := do
    match ← numberOr "f64" with
    | .integer n => pure (Float.ofInt n.val)
    | .float x => pure x

/-- A character is written as a string of one character. -/
instance : Form Char where
  encode c := .ok (.string (String.ofList [c]))
  read _ := do
    let s ← Reader.string "a character"
    match s.toList with
    | [c] => pure c
    | _ => mismatch (.invalidValue (.string s) "a character")

/-! ## Compound types -/

/-- `null` stands for the absent value. -/
instance [Form α] : Form (Option α) where
  encode
    | none => .ok .null
    | some a => Form.encode a
  read depth := do
    if (← peek) = some 'n' then
      word ['n', 'u', 'l', 'l']
      pure none
    else
      let a ← Form.read depth
      pure (some a)

/-- Reads an array, given how to read what is between its brackets. -/
def Reader.arrayOr (expected : String) (body : Nat → Reader α) (depth : Nat) : Reader α := do
  if (← peek) = some '[' then nested body depth else unexpected expected

/-- Reads an object, given how to read what is between its braces. -/
def Reader.objectOr (expected : String) (body : Nat → Reader α) (depth : Nat) : Reader α := do
  if (← peek) = some '\x7b' then nested body depth else unexpected expected

/-- The next item of an array that has to have `length` of them; `index` are before it. -/
def Reader.itemAt (expected : String) (index : Nat) (item : Reader α) : Reader α := do
  if ← itemFollows (index = 0) then item
  else mismatch (.invalidLength index expected)

instance [Form α] : Form (List α) where
  encode items := do
    let items ← items.mapM Form.encode
    pure (.array items)
  read := arrayOr "a sequence" fun depth => items (Form.read depth)

instance [Form α] [Form β] : Form (α × β) where
  encode pair := do
    let first ← Form.encode pair.1
    let second ← Form.encode pair.2
    pure (.array [first, second])
  read := arrayOr "a tuple of size 2" fun depth => do
    let first ← itemAt "a tuple of size 2" 0 (Form.read depth)
    let second ← itemAt "a tuple of size 2" 1 (Form.read depth)
    closeArray
    pure (first, second)

/-- A map is written as an object; of members with the same name the last one counts. -/
instance [Form α] : Form (Std.ExtTreeMap String α) where
  encode map := do
    let members ← map.toList.mapM fun (name, value) => do
      let value ← Form.encode value
      pure (name, value)
    pure (.object members)
  read := objectOr "a map" fun depth => do
    let map ← members
      (fun (map : Std.ExtTreeMap String α) => do
        drop
        let name ← stringContent
        colon
        let value ← Form.read depth
        pure (map.insert name value))
      ∅
    closeObject
    pure map

instance : Form CanonicalJson where
  encode json := .ok json.val
  read depth := do
    let json ← json depth
    pure (.ofJson json)

end Cellwise.Json
