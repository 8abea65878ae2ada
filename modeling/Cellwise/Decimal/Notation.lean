import Cellwise.Text.Numeral
import Cellwise.Decimal.Shortest

/-!
# Floats as text

A finite float is written with the fewest digits that identify it: positionally, always with a
point, from `0.00001` up to below `10 ^ 16`, and otherwise with one digit before the point and a
signed exponent.
-/

namespace Cellwise.Decimal

open Cellwise.Text (natDigits intDigits)

/-- A run of zeros. -/
def zeros (n : Nat) : List Char := List.replicate n '0'

/-- Digits with the point after the first `point` of them. -/
def positional (digits : List Char) (point : Int) : List Char :=
  if point ≤ 0 then '0' :: '.' :: zeros (-point).toNat ++ digits
  else
    let whole := point.toNat
    if digits.length ≤ whole then digits ++ zeros (whole - digits.length) ++ ['.', '0']
    else digits.take whole ++ '.' :: digits.drop whole

/-- Digits with the point after the first one and a signed exponent. -/
def exponential (digits : List Char) (exponent : Int) : List Char :=
  let mantissa := match digits with
    | first :: second :: rest => first :: '.' :: second :: rest
    | short => short
  mantissa ++ 'e' :: (if 0 ≤ exponent then ['+'] else []) ++ intDigits exponent

/-- The text of a positive decimal; the exponent of its leading digit decides on the notation. -/
def Scientific.chars (d : Scientific) : List Char :=
  let digits := natDigits d.digits
  let leading := d.exponent + digits.length - 1
  if -5 ≤ leading ∧ leading < 16 then positional digits (leading + 1)
  else exponential digits leading

/-- The sign bit. -/
def isNegative (x : Float) : Bool := x.toBits >>> 63 = 1

/-- The text of a finite float. -/
def floatChars (x : Float) : List Char :=
  let magnitude := Binary.ofBits (x.toBits &&& 0x7FFFFFFFFFFFFFFF)
  let unsigned := if magnitude.m = 0 then ['0', '.', '0'] else magnitude.shortest.chars
  if isNegative x then '-' :: unsigned else unsigned

/-- Is the float neither infinite nor undefined? -/
def isFinite (x : Float) : Bool := (x.toBits >>> 52) &&& 0x7FF ≠ 0x7FF

end Cellwise.Decimal
