import Cellwise.Json.Basic
import Cellwise.Json.Reader

/-!
# Reading JSON numbers

A number without fraction and exponent that fits 64 bits is a whole number, except for `-0`; every
other number is a float. The value of a float is found in three steps: the digits are collected
while they fit an unsigned 64-bit number, digits behind those only count for the exponent, and the
collected number is multiplied or divided once by a power of ten. A float that would be infinite is
out of range, which makes the text malformed.
-/

namespace Cellwise.Json

open Cellwise.Text (digitValue)

/-- The parts of a number as it is written. -/
structure Numeral where
  negative : Bool
  whole : List Char
  fraction : Option (List Char)
  exponent : Option Int

namespace Numeral

/-- Appends digits to a number while it stays below `2 ^ 64`, and counts the digits that were
appended. -/
def append (n : Nat) : List Char → Nat × Nat
  | [] => (n, 0)
  | c :: rest =>
    let next := 10 * n + digitValue c
    if next < 18446744073709551616 then
      let (value, count) := append next rest
      (value, count + 1)
    else (n, 0)

/-- Divides by `10 ^ 308` the given number of times; nothing is left of zero. -/
def divideDown : Nat → Float → Float
  | 0, x => x
  | times + 1, x => if x == 0.0 then x else divideDown times (x / 1e308)

/-- A power of ten; exact up to `10 ^ 22` and rounded to the nearest float beyond. -/
def powerOfTen (n : Nat) : Float := Float.ofScientific 1 false n

/-- The float `n * 10 ^ exponent`, or nothing if it is infinite. -/
def scale (n : Nat) (exponent : Int) : Option Float :=
  let x := Float.ofScientific n false 0
  if 0 ≤ exponent then
    if exponent ≤ 308 then
      let y := x * powerOfTen exponent.toNat
      if Decimal.isFinite y then some y else none
    else if n = 0 then some x else none
  else
    let down := (-exponent).toNat
    let times := (down - 1) / 308
    some (divideDown times x / powerOfTen (down - 308 * times))

/-- The number that the parts stand for. -/
def value (numeral : Numeral) : Except Fault Number :=
  -- Digits of the whole part that no longer fit raise the exponent.
  let (n, count) := append 0 numeral.whole
  let dropped := numeral.whole.length - count
  let signed (x : Float) : Float := if numeral.negative then -x else x
  let whole? : Option Integer :=
    if numeral.fraction.isNone && numeral.exponent.isNone && dropped = 0
        && !(numeral.negative && n = 0) then
      if numeral.negative then (if n ≤ 9223372036854775808 then Integer.ofInt? (-n) else none)
      else Integer.ofInt? n
    else none
  match whole? with
  | some n => .ok (.integer n)
  | none =>
    -- Digits of the fraction lower it, as far as they are collected.
    let (n, places) := append n (numeral.fraction.getD [])
    match scale n (dropped - places + numeral.exponent.getD 0) with
    | some x => .ok (.float (signed x))
    | none => .error .malformed

end Numeral

namespace Reader

/-- Takes a run of digits, which may be empty. -/
def digits : Reader (List Char) := fun input =>
  .ok (input.takeWhile Char.isDigit, input.dropWhile Char.isDigit)

/-- Takes a run of at least one digit; `atEnd` is the fault of a text that ends here. -/
def someDigits (atEnd : Fault) : Reader (List Char) := fun input =>
  match input with
  | [] => .error atEnd
  | c :: _ => if c.isDigit then digits input else .error .malformed

/-- Takes the digits before the point; a zero in front of another digit is refused. -/
def wholeDigits (atEnd : Fault) : Reader (List Char) := fun input =>
  match input with
  | '0' :: rest =>
    if (rest.head?.map Char.isDigit).getD false then .error .malformed else .ok (['0'], rest)
  | _ => someDigits atEnd input

/-- Takes the point and the digits behind it, if there is a point. -/
def fraction (atEnd : Fault) : Reader (Option (List Char)) := fun input =>
  match input with
  | '.' :: rest => (someDigits atEnd rest).map fun (found, rest) => (some found, rest)
  | _ => .ok (none, input)

/-- Takes the exponent, if there is one. -/
def exponent (atEnd : Fault) : Reader (Option Int) := fun input =>
  match input with
  | c :: rest =>
    if c = 'e' || c = 'E' then
      let (sign, rest) := match rest with
        | '+' :: rest => ((1 : Int), rest)
        | '-' :: rest => (-1, rest)
        | rest => (1, rest)
      (someDigits atEnd rest).map fun (found, rest) =>
        (some (sign * Cellwise.Text.digitsValue found), rest)
    else .ok (none, input)
  | [] => .ok (none, input)

/-- Takes a minus sign, if there is one. -/
def minus : Reader Bool := fun input =>
  match input with
  | '-' :: rest => .ok (true, rest)
  | _ => .ok (false, input)

/-- Takes the parts of a number. -/
def numeral (atEnd : Fault) : Reader Numeral := do
  let negative ← minus
  let whole ← wholeDigits atEnd
  let fraction ← fraction atEnd
  let exponent ← exponent atEnd
  pure { negative, whole, fraction, exponent }

/-- Takes a number. -/
def number : Reader Number := do
  let numeral ← numeral .unfinished
  match numeral.value with
  | .ok n => pure n
  | .error fault => fail fault

/-- Takes a number that nobody wants, of any size. One that stops short is malformed. -/
def skipNumber : Reader Unit := do
  let _ ← numeral .malformed
  pure ()

end Reader

end Cellwise.Json
