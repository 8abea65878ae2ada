import Cellwise.Json.Fault

/-!
# Readers of JSON text

A `Reader` takes a value off the front of a list of characters and leaves the rest, or stops at a
fault. This module holds the readers that every shape of value is built from: blanks, words, the
separators of arrays and objects, and a loop over a part of the text.
-/

namespace Cellwise.Json

/-- Takes a value off the front of the text. -/
abbrev Reader (α : Type) := StateT (List Char) (Except Fault) α

namespace Reader

variable {α σ : Type}

/-- Stops at a fault. -/
def fail (fault : Fault) : Reader α := fun _ => .error fault

/-- Stops since the text has another shape than the one asked for. -/
def mismatch (what : Mismatch) : Reader α := fail (.mismatch what)

/-- The blanks of JSON: space, tab, line feed and carriage return. -/
def isSpace (c : Char) : Bool := c = ' ' || c = '\n' || c = '\t' || c = '\r'

/-- Skips blanks and looks at the character behind them without taking it. -/
def peek : Reader (Option Char) := fun input =>
  let rest := input.dropWhile isSpace
  .ok (rest.head?, rest)

/-- Takes one character, whatever it is. -/
def drop : Reader Unit := fun input => .ok ((), input.tail)

/-- Takes the characters of a word. -/
def word : List Char → Reader Unit
  | [], input => .ok ((), input)
  | _ :: _, [] => .error .unfinished
  | c :: cs, d :: rest => if c = d then word cs rest else .error .malformed

/-- Runs a step on a state at most `fuel` times, until the step has no next state. -/
def iterateFrom (step : σ → Reader (Option σ)) : Nat → σ → Reader σ
  | 0, _, _ => .error .malformed
  | fuel + 1, state, input =>
    match step state input with
    | .error fault => .error fault
    | .ok (none, rest) => .ok (state, rest)
    | .ok (some next, rest) => iterateFrom step fuel next rest

/-- Runs a step on a state until the step has no next state. Every step that has one takes at
least one character, so that there are no more steps than characters. -/
def iterate (step : σ → Reader (Option σ)) (state : σ) : Reader σ := fun input =>
  iterateFrom step (input.length + 1) state input

/-! ## Arrays and objects -/

/-- Inside an array: does a further item follow? The comma before it is taken, the closing
bracket is left. -/
def itemFollows (first : Bool) : Reader Bool := do
  match ← peek with
  | none => fail .unfinished
  | some c =>
    if c = ']' then pure false
    else if first then pure true
    else if c = ',' then
      drop
      -- A comma promises a further item.
      match ← peek with
      | none => fail .unfinished
      | some c => if c = ']' then fail .malformed else pure true
    else fail .malformed

/-- Takes the closing bracket of an array. -/
def closeArray : Reader Unit := do
  match ← peek with
  | none => fail .unfinished
  | some c => if c = ']' then drop else fail .malformed

/-- The items of an array whose opening bracket has been taken. -/
def items (item : Reader α) : Reader (List α) := do
  let (_, found) ← iterate (σ := Bool × List α)
    (fun (first, found) => do
      if ← itemFollows first then
        let next ← item
        pure (some (false, next :: found))
      else pure none)
    (true, [])
  closeArray
  pure found.reverse

/-- Inside an object: does a further member follow? The comma before it is taken, the closing
brace is left, and the name of the member is about to begin. -/
def memberFollows (first : Bool) : Reader Bool := do
  match ← peek with
  | none => fail .unfinished
  | some c =>
    if c = '\x7d' then pure false
    else if first then (if c = '"' then pure true else fail .malformed)
    else if c = ',' then
      drop
      match ← peek with
      | none => fail .unfinished
      | some c => if c = '"' then pure true else fail .malformed
    else fail .malformed

/-- Takes the colon between the name and the value of a member. -/
def colon : Reader Unit := do
  match ← peek with
  | none => fail .unfinished
  | some c => if c = ':' then drop else fail .malformed

/-- Takes the closing brace of an object. -/
def closeObject : Reader Unit := do
  match ← peek with
  | none => fail .unfinished
  | some c => if c = '\x7d' then drop else fail .malformed

/-- The members of an object whose opening brace has been taken, folded into a state. -/
def members (member : σ → Reader σ) (state : σ) : Reader σ := do
  let (_, state) ← iterate (σ := Bool × σ)
    (fun (first, state) => do
      if ← memberFollows first then
        let next ← member state
        pure (some (false, next))
      else pure none)
    (true, state)
  pure state

/-- Takes an opening bracket if one more level of nesting is allowed. -/
def nested (body : Nat → Reader α) : Nat → Reader α
  | 0 => fail .malformed
  | depth + 1 => do
    drop
    body depth

/-- Reads a whole text: a value with nothing but blanks behind it. -/
def whole (reader : Reader α) (text : List Char) : Except Fault α := do
  let (value, rest) ← reader text
  if (rest.dropWhile isSpace).isEmpty then .ok value else .error .malformed

end Reader

end Cellwise.Json
