import Cellwise.Json.Basic
import Cellwise.Decimal.Notation

/-!
# JSON text

The text of a JSON value: `Json.render` writes it without any blanks, `Json.renderIndented` with one
item or member a line. A string escapes the quote, the backslash and the characters below U+0020,
and nothing else. A float that is infinite or undefined is written as `null`.
-/

namespace Cellwise.Json

open Cellwise.Text (intDigits)
open Cellwise.Decimal (floatChars isFinite)

/-- A lower-case hexadecimal digit; meant for numbers below sixteen. -/
def hexDigit (n : Nat) : Char := Nat.digitChar n

/-- One character of a string as it is written between the quotes. -/
def escapeChar (c : Char) : List Char :=
  match c with
  | '"' => ['\\', '"']
  | '\\' => ['\\', '\\']
  | '\x08' => ['\\', 'b']
  | '\x0c' => ['\\', 'f']
  | '\n' => ['\\', 'n']
  | '\r' => ['\\', 'r']
  | '\t' => ['\\', 't']
  | c =>
    if c.toNat < 0x20 then
      ['\\', 'u', '0', '0', hexDigit (c.toNat / 16), hexDigit (c.toNat % 16)]
    else [c]

/-- A string with its quotes. -/
def stringChars (s : String) : List Char := '"' :: s.toList.flatMap escapeChar ++ ['"']

/-- The text of `null`. -/
def nullChars : List Char := ['n', 'u', 'l', 'l']

/-- The text of a truth value. -/
def boolChars : Bool → List Char
  | true => ['t', 'r', 'u', 'e']
  | false => ['f', 'a', 'l', 's', 'e']

/-- The text of a number. -/
def numberChars : Number → List Char
  | .integer n => intDigits n.val
  | .float x => if isFinite x then floatChars x else nullChars

/-! ## Without blanks -/

mutual
/-- The characters of the text without blanks. -/
def chars : Json → List Char
  | .null => nullChars
  | .bool b => boolChars b
  | .number n => numberChars n
  | .string s => stringChars s
  | .array [] => ['[', ']']
  | .array (item :: items) => '[' :: chars item ++ charsItems items
  | .object [] => ['\x7b', '\x7d']
  | .object ((name, value) :: members) =>
    '\x7b' :: stringChars name ++ ':' :: chars value ++ charsMembers members
termination_by structural j => j

/-- Further items and the closing bracket. -/
def charsItems : List Json → List Char
  | [] => [']']
  | item :: items => ',' :: chars item ++ charsItems items
termination_by structural items => items

/-- Further members and the closing brace. -/
def charsMembers : List (String × Json) → List Char
  | [] => ['\x7d']
  | (name, value) :: members =>
    ',' :: stringChars name ++ ':' :: chars value ++ charsMembers members
termination_by structural members => members
end

/-- The text without blanks. -/
def render (j : Json) : String := String.ofList j.chars

/-! ## One item or member a line -/

/-- A new line, indented by two blanks for every level. -/
def newLine (level : Nat) : List Char := '\n' :: List.replicate (2 * level) ' '

mutual
/-- The characters of the indented text of a value that stands at a level. -/
def indentedChars (level : Nat) : Json → List Char
  | .null => nullChars
  | .bool b => boolChars b
  | .number n => numberChars n
  | .string s => stringChars s
  | .array [] => ['[', ']']
  | .array (item :: items) =>
    '[' :: newLine (level + 1) ++ indentedChars (level + 1) item ++ indentedItems level items
  | .object [] => ['\x7b', '\x7d']
  | .object ((name, value) :: members) =>
    '\x7b' :: newLine (level + 1) ++ stringChars name ++ ':' :: ' ' ::
      indentedChars (level + 1) value ++ indentedMembers level members
termination_by structural j => j

/-- Further items and the closing bracket. -/
def indentedItems (level : Nat) : List Json → List Char
  | [] => newLine level ++ [']']
  | item :: items =>
    ',' :: newLine (level + 1) ++ indentedChars (level + 1) item ++ indentedItems level items
termination_by structural items => items

/-- Further members and the closing brace. -/
def indentedMembers (level : Nat) : List (String × Json) → List Char
  | [] => newLine level ++ ['\x7d']
  | (name, value) :: members =>
    ',' :: newLine (level + 1) ++ stringChars name ++ ':' :: ' ' ::
      indentedChars (level + 1) value ++ indentedMembers level members
termination_by structural members => members
end

/-- The text with one item or member a line. -/
def renderIndented (j : Json) : String := String.ofList (j.indentedChars 0)

end Cellwise.Json
