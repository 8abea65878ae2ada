import Cellwise.Json.Printer
import Cellwise.Json.NumberText
import Cellwise.Proofs.Json.Reading

/-!
# Whole numbers read back

The decimal numeral of a number that fits 64 bits is read as that number. No digit of it is dropped,
it has no zero in front, and what stands behind it is not a part of it.
-/

namespace Cellwise.Text

/-! ## The digits of a number -/

theorem isDigit_of_mem_natDigits {n : Nat} {c : Char} (mem : c ∈ natDigits n) :
    c.isDigit = true :=
  Nat.isDigit_of_mem_toDigits (by omega) (by omega) mem

theorem natDigits_ne_nil (n : Nat) : natDigits n ≠ [] := Nat.toDigits_ne_nil

/-- Only zero has a numeral that begins with the digit zero. -/
theorem head?_natDigits_ne_zero {n : Nat} (positive : 0 < n) : (natDigits n).head? ≠ some '0' := by
  induction n using Nat.strongRecOn with
  | ind n ih =>
    by_cases small : n < 10
    · have digit : natDigits n = [n.digitChar] := Nat.toDigits_of_lt_base small
      simp [digit]
      omega
    · -- The last digit does not matter, the front is the numeral of a smaller number.
      have digits : natDigits n = natDigits (n / 10) ++ [(n % 10).digitChar] :=
        Nat.toDigits_of_base_le (by omega) (by omega)
      have front := ih (n / 10) (by omega) (by omega)
      rcases List.exists_cons_of_ne_nil (natDigits_ne_nil (n / 10)) with ⟨c, more, eq⟩
      rw [eq] at front
      simpa [digits, eq] using front

theorem natDigits_zero : natDigits 0 = ['0'] := rfl

end Cellwise.Text

namespace Cellwise.Json

open Cellwise.Text

/-! ## The value of digits -/

namespace Numeral

/-- Digits are appended to the last one as long as the number they make fits. -/
theorem append_eq {n : Nat} {digits : List Char}
    (fits : Nat.ofDigitChars 10 digits n < 18446744073709551616) :
    append n digits = (Nat.ofDigitChars 10 digits n, digits.length) := by
  induction digits generalizing n with
  | nil => simp [append]
  | cons c digits ih =>
    have value : Nat.ofDigitChars 10 (c :: digits) n =
        Nat.ofDigitChars 10 digits (10 * n + digitValue c) := Nat.ofDigitChars_cons
    rw [value] at fits ⊢
    -- Later digits only make the number greater, so that it fits at every digit.
    have grows : 10 * n + digitValue c ≤ Nat.ofDigitChars 10 digits (10 * n + digitValue c) :=
      calc 10 * n + digitValue c
        _ ≤ 10 ^ digits.length * (10 * n + digitValue c) :=
          Nat.le_mul_of_pos_left _ (Nat.pow_pos (by omega))
        _ ≤ 10 ^ digits.length * (10 * n + digitValue c) + Nat.ofDigitChars 10 digits 0 :=
          Nat.le_add_right _ _
        _ = Nat.ofDigitChars 10 digits (10 * n + digitValue c) :=
          Nat.ofDigitChars_eq_ofDigitChars_zero.symm
    have next : 10 * n + digitValue c < 18446744073709551616 := by omega
    simp [append, next, ih fits]

theorem append_natDigits {n : Nat} (fits : n < 18446744073709551616) :
    append 0 (natDigits n) = (n, (natDigits n).length) := by
  have value : Nat.ofDigitChars 10 (natDigits n) 0 = n := Nat.ofDigitChars_ten_toDigits
  have all : append 0 (natDigits n) =
      (Nat.ofDigitChars 10 (natDigits n) 0, (natDigits n).length) := append_eq (by omega)
  rwa [value] at all

/-- The parts of a whole number as it is written. -/
def ofInteger (n : Integer) : Numeral where
  negative := n.val < 0
  whole := natDigits n.val.natAbs
  fraction := none
  exponent := none

theorem value_ofInteger (n : Integer) : (ofInteger n).value = .ok (.integer n) := by
  have lower := n.lower
  have upper := n.upper
  have digits : append 0 (natDigits n.val.natAbs) =
      (n.val.natAbs, (natDigits n.val.natAbs).length) := append_natDigits (by omega)
  -- The bounds of the two signs differ, and there is no negative zero.
  by_cases negative : n.val < 0
  · have nonzero : n.val.natAbs ≠ 0 := by omega
    have fits : n.val.natAbs ≤ 9223372036854775808 := by omega
    have back : Integer.ofInt? (-(n.val.natAbs : Int)) = some n := by
      rw [Int.ofNat_natAbs_of_nonpos (by omega), Int.neg_neg, Integer.ofInt?_val]
    simp only [value, ofInteger, digits, negative, decide_true, if_true, nonzero, fits, back,
      Nat.sub_self, Option.isNone_none, Bool.and_self, decide_false, Bool.and_false, Bool.not_false]
  · have back : Integer.ofInt? (n.val.natAbs : Int) = some n := by
      rw [Int.natAbs_of_nonneg (by omega), Integer.ofInt?_val]
    simp only [value, ofInteger, digits, negative, decide_false, Bool.false_eq_true, if_false, back,
      Nat.sub_self, Option.isNone_none, Bool.and_self, decide_true, Bool.false_and, Bool.not_false,
      if_true]

end Numeral

/-! ## The parts of a number on the text -/

namespace Reader

theorem digits_natDigits (n : Nat) {rest : List Char} (settled : Settled rest) :
    digits (natDigits n ++ rest) = .ok (natDigits n, rest) := by
  have digits : ∀ c ∈ natDigits n, c.isDigit = true := fun c mem => isDigit_of_mem_natDigits mem
  have stops : rest.takeWhile Char.isDigit = [] ∧ rest.dropWhile Char.isDigit = rest := by
    cases rest with
    | nil => exact ⟨rfl, rfl⟩
    | cons c rest =>
      have other : c.isDigit = false := settled.1
      simp [other]
  rw [Reader.digits, List.takeWhile_append_of_pos digits, List.dropWhile_append_of_pos digits]
  simp [stops]

theorem someDigits_natDigits (atEnd : Fault) (n : Nat) {rest : List Char} (settled : Settled rest) :
    someDigits atEnd (natDigits n ++ rest) = .ok (natDigits n, rest) := by
  rcases List.exists_cons_of_ne_nil (natDigits_ne_nil n) with ⟨c, more, eq⟩
  have first : c.isDigit = true := isDigit_of_mem_natDigits (by rw [eq]; exact List.mem_cons_self)
  have all := digits_natDigits n settled
  rw [eq] at all ⊢
  simpa [someDigits, first] using all

theorem wholeDigits_natDigits (atEnd : Fault) (n : Nat) {rest : List Char}
    (settled : Settled rest) :
    wholeDigits atEnd (natDigits n ++ rest) = .ok (natDigits n, rest) := by
  -- A zero in front is only allowed to be the whole numeral.
  by_cases positive : 0 < n
  · have some_digits := someDigits_natDigits atEnd n settled
    have other := head?_natDigits_ne_zero positive
    rcases List.exists_cons_of_ne_nil (natDigits_ne_nil n) with ⟨c, digits, eq⟩
    rw [eq] at some_digits other ⊢
    have nonzero : c ≠ '0' := by simpa using other
    unfold wholeDigits
    split
    case h_1 _ _ same => simp [nonzero] at same
    case h_2 => exact some_digits
  · have zero : n = 0 := by omega
    subst zero
    cases rest with
    | nil => rfl
    | cons c rest =>
      have other : c.isDigit = false := settled.1
      simp [natDigits_zero, wholeDigits, other]

theorem fraction_of_settled (atEnd : Fault) {rest : List Char} (settled : Settled rest) :
    fraction atEnd rest = .ok (none, rest) := by
  unfold fraction
  split
  case h_1 => exact absurd rfl settled.2.1
  case h_2 => rfl

theorem exponent_of_settled (atEnd : Fault) {rest : List Char} (settled : Settled rest) :
    exponent atEnd rest = .ok (none, rest) := by
  cases rest with
  | nil => rfl
  | cons c rest => simp [exponent, settled.2.2.1, settled.2.2.2]

theorem minus_intDigits (n : Int) (rest : List Char) :
    minus (intDigits n ++ rest) = .ok (decide (n < 0), natDigits n.natAbs ++ rest) := by
  by_cases negative : n < 0
  · simp [intDigits, negative, minus]
  · rcases List.exists_cons_of_ne_nil (natDigits_ne_nil n.natAbs) with ⟨c, digits, eq⟩
    have first : c.isDigit = true :=
      isDigit_of_mem_natDigits (by rw [eq]; exact List.mem_cons_self)
    -- A numeral without a sign begins with a digit.
    have no_sign : c ≠ '-' := by
      rintro rfl
      exact absurd first (by decide)
    simp only [intDigits, negative, if_false, eq, List.cons_append, decide_false]
    unfold minus
    split
    case h_1 _ _ same => simp [no_sign] at same
    case h_2 => rfl

theorem reads_numeral (atEnd : Fault) (n : Integer) :
    Reads (numeral atEnd) (intDigits n.val) (.ofInteger n) := by
  intro rest settled
  rw [numeral, bind_of_ok (minus_intDigits n.val rest),
    bind_of_ok (wholeDigits_natDigits atEnd n.val.natAbs settled),
    bind_of_ok (fraction_of_settled atEnd settled), bind_of_ok (exponent_of_settled atEnd settled)]
  rfl

/-- A whole number that fits 64 bits is read from its numeral. -/
theorem reads_number (n : Integer) : Reads number (intDigits n.val) (.integer n) := by
  intro rest settled
  rw [number, bind_of_ok (reads_numeral .unfinished n rest settled)]
  simp [Numeral.value_ofInteger, Except.map]

end Reader

end Cellwise.Json
