import Cellwise.Json.StringText
import Cellwise.Json.NumberText

/-!
# Reading whole JSON values

* `Reader.json` reads any value as a tree, with a bound on how deeply brackets may nest.
* `Reader.skipValue` takes a value that nobody wants: it has to be well formed, but its numbers may
  be of any size and its brackets may nest as deeply as the text is long.
* `Reader.unexpected` names the value that stands in the place of what was wanted.
-/

namespace Cellwise.Json.Reader

variable {α : Type}

/-- Does a number begin with this character? -/
def beginsNumber (c : Char) : Bool := c = '-' || c.isDigit

/-- Reads a value, given what to do at a string, at a number, and at either kind of bracket. -/
def dispatch (null : Reader α) (bool : Bool → Reader α) (number string array object : Reader α) :
    Reader α := do
  match ← peek with
  | none => fail .unfinished
  | some c =>
    if c = 'n' then
      word ['n', 'u', 'l', 'l']
      null
    else if c = 't' then
      word ['t', 'r', 'u', 'e']
      bool true
    else if c = 'f' then
      word ['f', 'a', 'l', 's', 'e']
      bool false
    else if beginsNumber c then number
    else if c = '"' then
      drop
      string
    else if c = '[' then array
    else if c = '\x7b' then object
    else fail .malformed

/-- Reads one member of an object into the members before it. -/
def memberOf (value : Reader Json) (found : List (String × Json)) :
    Reader (List (String × Json)) := do
  drop
  let name ← stringContent
  colon
  let value ← value
  pure ((name, value) :: found)

/-- Reads a value other than an array or an object, or one of those as told. -/
def jsonWith (array object : Reader Json) : Reader Json :=
  dispatch (pure .null) (fun b => pure (.bool b))
    (do
      let n ← number
      pure (.number n))
    (do
      let s ← stringContent
      pure (.string s))
    array object

/-- Reads any value in which at most `depth` brackets are open at a time. Its members stay in the
order in which they are written. -/
def json : (depth : Nat) → Reader Json
  | 0 => jsonWith (fail .malformed) (fail .malformed)
  | depth + 1 =>
    jsonWith
      (do
        drop
        let found ← items (json depth)
        pure (.array found))
      (do
        drop
        let found ← members (memberOf (json depth)) []
        closeObject
        pure (.object found.reverse))

/-- Takes one member of an object that nobody wants. -/
def skipMember (value : Reader Unit) (_ : Unit) : Reader Unit := do
  drop
  skipString
  colon
  value

/-- Takes a value that nobody wants, with at most `depth` brackets open at a time. -/
def skipWithin : (depth : Nat) → Reader Unit
  | 0 => fail .malformed
  | depth + 1 =>
    dispatch (pure ()) (fun _ => pure ()) skipNumber skipString
      (do
        drop
        let _ ← items (skipWithin depth)
        pure ())
      (do
        drop
        members (skipMember (skipWithin depth)) ()
        closeObject)

/-- Takes a value that nobody wants. -/
def skipValue : Reader Unit := fun input => skipWithin (input.length + 1) input

/-- Stops since the value here is not what was wanted; the value is named by its kind, and a
number, string or truth value by its content as well. -/
def unexpected (expected : String) : Reader α :=
  let wrong (found : Found) : Reader α := mismatch (.invalidType found expected)
  dispatch (wrong .null) (fun b => wrong (.bool b))
    (do
      match ← number with
      | .integer n => wrong (.integer n.val)
      | .float x => wrong (.float x))
    (do
      let s ← stringContent
      wrong (.string s))
    (wrong .sequence) (wrong .map)

end Cellwise.Json.Reader
