import Cellwise.Text.Numeral
import Cellwise.Toml.Basic

/-!
# Bare words of TOML

A value that stands without quotes and brackets is one word: a truth value, a whole number, a float
or a moment. The word is judged as a whole. A whole number has to fit 64 bits with a sign, and a
float must not be beyond the largest one.
-/

namespace Cellwise.Toml.Bare

open Cellwise.Text (digitValue digitsValue)

/-- Characters that bare words are made of. -/
def isWordChar (c : Char) : Bool :=
  c.isAlphanum || c = '+' || c = '-' || c = '_' || c = '.' || c = ':'

/-! ## Digits -/

/-- At least one digit, with single underscores between digits. -/
def isGrouped (isDigit : Char → Bool) : List Char → Bool
  | [] => false
  | [c] => isDigit c
  | c :: '_' :: rest => isDigit c && isGrouped isDigit rest
  | c :: rest => isDigit c && isGrouped isDigit rest

/-- Digits without the underscores between them. -/
def ungrouped (digits : List Char) : List Char := digits.filter (· ≠ '_')

/-- A word without the sign in front of it, and whether that sign is a minus. -/
def unsigned : List Char → Bool × List Char
  | '+' :: rest => (false, rest)
  | '-' :: rest => (true, rest)
  | rest => (false, rest)

/-- Decimal digits that do not begin with a needless zero. -/
def isWhole : List Char → Bool
  | ['0'] => true
  | '0' :: _ => false
  | digits => isGrouped Char.isDigit digits

/-! ## Whole numbers -/

/-- The value of a digit in some base up to sixteen. -/
def digitIn (base : Nat) (c : Char) : Option Nat :=
  let value :=
    if c.isDigit then digitValue c
    else if 'a' ≤ c ∧ c ≤ 'f' then c.toNat - 'a'.toNat + 10
    else if 'A' ≤ c ∧ c ≤ 'F' then c.toNat - 'A'.toNat + 10
    else base
  if value < base then some value else none

/-- The number that digits in some base stand for. -/
def inBase (base : Nat) (digits : List Char) : Option Int :=
  if isGrouped (fun c => (digitIn base c).isSome) digits then
    some ((ungrouped digits).foldl (fun n c => base * n + (digitIn base c).getD 0) 0 : Nat)
  else none

/-- The whole number that a word stands for, of any size. -/
def whole : List Char → Option Int
  | '0' :: 'x' :: digits => inBase 16 digits
  | '0' :: 'o' :: digits => inBase 8 digits
  | '0' :: 'b' :: digits => inBase 2 digits
  | word =>
    let (negative, digits) := unsigned word
    if isWhole digits then
      let n : Int := digitsValue (ungrouped digits)
      some (if negative then -n else n)
    else none

/-- Does a whole number fit 64 bits with a sign? -/
def fits (n : Int) : Bool := -9223372036854775808 ≤ n && n < 9223372036854775808

/-! ## Floats -/

/-- Is `digits * 10 ^ exponent` so large that the nearest float is infinite? -/
def isBeyondFloats (digits : Nat) (exponent : Int) : Bool :=
  let limit := Nat.pow 2 1024 - Nat.pow 2 970
  let size : Int := (Nat.toDigits 10 digits).length + exponent
  if digits = 0 || size < 300 then false
  else if 320 < size then true
  else if 0 ≤ exponent then limit ≤ digits * Nat.pow 10 exponent.toNat
  else limit * Nat.pow 10 (-exponent).toNat ≤ digits

/-- The exponent that is written behind the letter. -/
def exponentOf (word : List Char) : Option Int :=
  let (negative, digits) := unsigned word
  if isGrouped Char.isDigit digits then
    let n : Int := digitsValue (ungrouped digits)
    some (if negative then -n else n)
  else none

/-- Is the character the letter in front of an exponent? -/
def isExponentMark (c : Char) : Bool := c = 'e' || c = 'E'

/-- Is a word a finite float? It has a fraction or an exponent or both. A float that is too large
is refused only without a minus sign. -/
def isFloat (word : List Char) : Bool :=
  let (negative, rest) := unsigned word
  let wholePart := rest.takeWhile fun c => c ≠ '.' && !isExponentMark c
  let rest := rest.dropWhile fun c => c ≠ '.' && !isExponentMark c
  let fits (fraction : List Char) (exponent : Int) : Bool :=
    let fraction := ungrouped fraction
    negative ||
      !isBeyondFloats (digitsValue (ungrouped wholePart ++ fraction)) (exponent - fraction.length)
  isWhole wholePart &&
    match rest with
    | '.' :: rest =>
      let fraction := rest.takeWhile fun c => !isExponentMark c
      isGrouped Char.isDigit fraction &&
        match rest.dropWhile fun c => !isExponentMark c with
        | [] => fits fraction 0
        | _ :: exponent => ((exponentOf exponent).map (fits fraction)).getD false
    | _ :: exponent => ((exponentOf exponent).map (fits [])).getD false
    | [] => false

/-- Is a word an infinity or the undefined float? -/
def isSpecialFloat (word : List Char) : Bool :=
  let rest := (unsigned word).2
  rest = ['i', 'n', 'f'] || rest = ['n', 'a', 'n']

/-! ## Moments -/

/-- The number that a run of digits stands for, if it is from a range. -/
def digitsWithin (low high : Nat) (digits : List Char) : Option Nat :=
  let n := digitsValue digits
  if digits.all Char.isDigit && low ≤ n && n ≤ high then some n else none

/-- The number of days of a month. -/
def daysOf (year month : Nat) : Nat :=
  if month = 2 then
    if year % 4 = 0 && (year % 100 ≠ 0 || year % 400 = 0) then 29 else 28
  else if month = 4 || month = 6 || month = 9 || month = 11 then 30
  else 31

/-- What stands behind a date, if the word begins with one. -/
def afterDate : List Char → Option (List Char)
  | y₁ :: y₂ :: y₃ :: y₄ :: '-' :: m₁ :: m₂ :: '-' :: d₁ :: d₂ :: rest => do
    let year ← digitsWithin 0 9999 [y₁, y₂, y₃, y₄]
    let month ← digitsWithin 1 12 [m₁, m₂]
    let _ ← digitsWithin 1 (daysOf year month) [d₁, d₂]
    pure rest
  | _ => none

/-- What stands behind hours and minutes, if the word begins with them. -/
def afterClock : List Char → Option (List Char)
  | h₁ :: h₂ :: ':' :: m₁ :: m₂ :: rest => do
    let _ ← digitsWithin 0 23 [h₁, h₂]
    let _ ← digitsWithin 0 59 [m₁, m₂]
    pure rest
  | _ => none

/-- What stands behind a time of day, if the word begins with one; a minute may have a leap
second. -/
def afterTime (word : List Char) : Option (List Char) := do
  match ← afterClock word with
  | ':' :: s₁ :: s₂ :: rest =>
    let _ ← digitsWithin 0 60 [s₁, s₂]
    match rest with
    | '.' :: fraction =>
      if (fraction.takeWhile Char.isDigit).isEmpty then none
      else some (fraction.dropWhile Char.isDigit)
    | rest => some rest
  | _ => none

/-- Is a word the distance from universal time? -/
def isOffset (word : List Char) : Bool :=
  match word with
  | ['Z'] => true
  | ['z'] => true
  | '+' :: rest => afterClock rest = some []
  | '-' :: rest => afterClock rest = some []
  | _ => false

/-- Is a word a time of day, perhaps with the distance from universal time? -/
def isTimeWithOffset (word : List Char) : Bool :=
  match afterTime word with
  | some rest => rest.isEmpty || isOffset rest
  | none => false

/-- Is a word a date? -/
def isDate (word : List Char) : Bool := afterDate word = some []

/-- Is a word a date, a time of day, or both with a letter between them? -/
def isMoment (word : List Char) : Bool :=
  match afterDate word with
  | some [] => true
  | some ('T' :: rest) => isTimeWithOffset rest
  | some ('t' :: rest) => isTimeWithOffset rest
  | some _ => false
  | none => afterTime word = some []

/-! ## Words -/

/-- The value of a bare word. -/
def value (word : List Char) : Option Toml :=
  if word = ['t', 'r', 'u', 'e'] then some (.bool true)
  else if word = ['f', 'a', 'l', 's', 'e'] then some (.bool false)
  else if isMoment word then some (.moment (String.ofList word))
  else if isFloat word || isSpecialFloat word then some (.float (String.ofList word))
  else
    match whole word with
    | some n => if fits n then some (.integer n) else none
    | none => none

end Cellwise.Toml.Bare
