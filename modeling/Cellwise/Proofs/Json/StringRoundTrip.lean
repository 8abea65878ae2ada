import Cellwise.Json.Printer
import Cellwise.Json.StringText
import Cellwise.Proofs.Json.Reading

/-!
# Strings read back

Every character is written in a way that is read as that character, and so every string is.
-/

namespace Cellwise.Json

open Reader

/-! ## One character -/

theorem hexValue_hexDigit {n : Nat} (small : n < 16) : hexValue (hexDigit n) = some n := by
  have all : ∀ n < 16, hexValue (hexDigit n) = some n := by decide
  exact all n small

theorem utf8Size_hexDigit {n : Nat} (small : n < 16) : (hexDigit n).utf8Size = 1 := by
  have all : ∀ n < 16, (hexDigit n).utf8Size = 1 := by decide
  exact all n small

theorem fourHex_hexDigits {a b c d : Nat} (ha : a < 16) (hb : b < 16) (hc : c < 16) (hd : d < 16)
    (rest : List Char) :
    fourHex (hexDigit a :: hexDigit b :: hexDigit c :: hexDigit d :: rest) =
      .ok (((a * 16 + b) * 16 + c) * 16 + d, rest) := by
  have length : utf8Length [hexDigit a, hexDigit b, hexDigit c, hexDigit d] = 4 := by
    simp [utf8Length, utf8Size_hexDigit, ha, hb, hc, hd]
  simp [fourHex, length, hexValue_hexDigit, ha, hb, hc, hd]

/-- A character below U+0020 is read from its two hexadecimal digits. -/
theorem unicodeEscape_control {c : Char} (control : c.toNat < 0x20) (rest : List Char) :
    unicodeEscape ('0' :: '0' :: hexDigit (c.toNat / 16) :: hexDigit (c.toNat % 16) :: rest) =
      .ok (c, rest) := by
  have value : ((0 * 16 + 0) * 16 + c.toNat / 16) * 16 + c.toNat % 16 = c.toNat := by omega
  have four : fourHex ('0' :: '0' :: hexDigit (c.toNat / 16) :: hexDigit (c.toNat % 16) :: rest) =
      .ok (c.toNat, rest) := by
    have four := fourHex_hexDigits (a := 0) (b := 0) (c := c.toNat / 16) (d := c.toNat % 16)
      (by omega) (by omega) (by omega) (by omega) rest
    rwa [value] at four
  -- A control character is no half of a pair of surrogates.
  have trailing : isTrailing c.toNat = false := by simp [isTrailing]; omega
  have leading : isLeading c.toNat = false := by simp [isLeading]; omega
  rw [unicodeEscape, bind_of_ok four]
  simp [trailing, leading, Char.ofNat_toNat]

/-- One step of reading a string takes one written character. -/
theorem stringStep_escapeChar (found : List Char) (c : Char) (rest : List Char) :
    stringStep found (escapeChar c ++ rest) = .ok (some (c :: found), rest) := by
  -- Seven characters have an escape of their own, other controls are written in hexadecimal.
  unfold escapeChar
  split
  case h_8 =>
    split
    next control => simp [stringStep, escape, unicodeEscape_control control]
    next printable => simp [stringStep, printable]
  all_goals rfl

/-! ## Whole strings -/

theorem stringChars_eq (s : String) (rest : List Char) :
    stringChars s ++ rest = '"' :: (s.toList.flatMap escapeChar ++ '"' :: rest) := by
  simp [stringChars]

theorem escapeChar_ne_nil (c : Char) : escapeChar c ≠ [] := by
  unfold escapeChar
  split
  case h_8 => split <;> simp
  all_goals simp

theorem iterates_stringStep (s found rest : List Char) :
    Iterates stringStep found (s.flatMap escapeChar ++ '"' :: rest)
      (.ok (s.reverse ++ found, rest)) := by
  induction s generalizing found with
  -- The closing quote stops the loop and is taken.
  | nil => exact .stop rfl
  | cons c s ih =>
    have text : (c :: s).flatMap escapeChar ++ '"' :: rest =
        escapeChar c ++ (s.flatMap escapeChar ++ '"' :: rest) := by
      simp
    have some_taken : 0 < (escapeChar c).length := List.length_pos_iff.2 (escapeChar_ne_nil c)
    rw [text]
    refine .next (stringStep_escapeChar found c _) ?_ ?_
    · simp only [List.length_append]
      omega
    · simpa using ih (c :: found)

theorem stringContent_append (s : String) (rest : List Char) :
    stringContent (s.toList.flatMap escapeChar ++ '"' :: rest) = .ok (s, rest) := by
  rw [stringContent, bind_of_ok (iterate_eq (iterates_stringStep s.toList [] rest))]
  simp

end Cellwise.Json
