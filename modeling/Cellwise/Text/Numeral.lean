/-!
# Decimal numerals

Whole numbers as decimal text, and the text of a 64-bit signed number read back: an optional sign
followed by ASCII digits and nothing else.
-/

namespace Cellwise.Text

/-- The decimal digits of a number, the most significant first. -/
def natDigits (n : Nat) : List Char := Nat.toDigits 10 n

/-- A whole number in decimal, with a minus sign in front of a negative one. -/
def intDigits (n : Int) : List Char :=
  if n < 0 then '-' :: natDigits n.natAbs else natDigits n.natAbs

/-- A whole number in decimal, as a text. -/
def ofInt (n : Int) : String := String.ofList (intDigits n)

/-- The value of an ASCII digit; meant for digits only. -/
def digitValue (c : Char) : Nat := c.toNat - '0'.toNat

/-- The number that a run of digits stands for. -/
def digitsValue (digits : List Char) : Nat :=
  digits.foldl (fun n c => 10 * n + digitValue c) 0

/-- Why a text is not the numeral of a 64-bit signed number. -/
inductive NumeralFault where
  | empty
  | invalidDigit
  | tooLarge
  | tooSmall
  deriving DecidableEq, Repr

/-- The wording of a fault. -/
def NumeralFault.message : NumeralFault → String
  | .empty => "cannot parse integer from empty string"
  | .invalidDigit => "invalid digit found in string"
  | .tooLarge => "number too large to fit in target type"
  | .tooSmall => "number too small to fit in target type"

/-- The first fault of a run of digits that is read from the left: a character that is no digit
before the value has left the range, or the digit that makes it leave the range. -/
def boundedDigits (sign : Int) (inRange : Int → Bool) (fault : NumeralFault) :
    Int → List Char → Except NumeralFault Int
  | value, [] => .ok value
  | value, c :: rest =>
    if !c.isDigit then .error .invalidDigit
    else
      let next := 10 * value + sign * digitValue c
      if inRange next then boundedDigits sign inRange fault next rest else .error fault

/-- Reads a 64-bit signed number in decimal. -/
def readInt64 (text : String) : Except NumeralFault Int :=
  let inRange (n : Int) : Bool := -9223372036854775808 ≤ n && n < 9223372036854775808
  match text.toList with
  | [] => .error .empty
  | ['+'] => .error .invalidDigit
  | ['-'] => .error .invalidDigit
  | '+' :: digits => boundedDigits 1 inRange .tooLarge 0 digits
  | '-' :: digits => boundedDigits (-1) inRange .tooSmall 0 digits
  | digits => boundedDigits 1 inRange .tooLarge 0 digits

end Cellwise.Text
