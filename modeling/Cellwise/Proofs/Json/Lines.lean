import Cellwise.Json.Form
import Cellwise.Proofs.Json.TreeRoundTrip

/-!
# JSON text as a line

The text of a value that has whole numbers only stands on one line: whatever its strings hold, no
character of the text is below U+0020, the end of a line included. Printed as a line, it is read as
the value that it is the text of.
-/

namespace Cellwise.Json

open Reader Text

/-! ## No controls -/

/-- No character is below U+0020. -/
def NoControls (text : List Char) : Prop := ∀ c ∈ text, 0x20 ≤ c.toNat

@[simp] theorem noControls_nil : NoControls [] := by simp [NoControls]

@[simp] theorem noControls_cons (c : Char) (text : List Char) :
    NoControls (c :: text) ↔ 0x20 ≤ c.toNat ∧ NoControls text := List.forall_mem_cons

@[simp] theorem noControls_append (text more : List Char) :
    NoControls (text ++ more) ↔ NoControls text ∧ NoControls more := List.forall_mem_append

theorem le_toNat_hexDigit {n : Nat} (small : n < 16) : 0x20 ≤ (hexDigit n).toNat := by
  have all : ∀ n < 16, 0x20 ≤ (hexDigit n).toNat := by decide
  exact all n small

/-- A control is written as an escape, of which no character is a control. -/
theorem noControls_escapeChar (c : Char) : NoControls (escapeChar c) := by
  unfold escapeChar
  split
  case h_8 =>
    split
    next control =>
      have high := le_toNat_hexDigit (n := c.toNat / 16) (by omega)
      have low := le_toNat_hexDigit (n := c.toNat % 16) (by omega)
      simp [high, low]
    next printable => simpa using printable
  all_goals simp

theorem noControls_stringChars (s : String) : NoControls (stringChars s) := by
  have content : NoControls (s.toList.flatMap escapeChar) := by
    intro c mem
    rcases List.mem_flatMap.1 mem with ⟨written, -, escaped⟩
    exact noControls_escapeChar written c escaped
  simp [stringChars, content]

theorem noControls_natDigits (n : Nat) : NoControls (natDigits n) := by
  intro c mem
  have digit := isDigit_of_mem_natDigits mem
  have begins : beginsNumber c = true := by simp [beginsNumber, digit]
  have range := toNat_of_beginsNumber begins
  omega

theorem noControls_intDigits (n : Int) : NoControls (intDigits n) := by
  unfold intDigits
  split
  next => simp [noControls_natDigits]
  next => exact noControls_natDigits _

theorem noControls_listingChars {close : Char} (closes : 0x20 ≤ close.toNat)
    {texts : List (List Char)} (each : ∀ text ∈ texts, NoControls text) :
    NoControls (listingChars [] [] close texts) := by
  have further : ∀ texts : List (List Char), (∀ text ∈ texts, NoControls text) →
      NoControls (furtherChars [] [close] texts) := by
    intro texts each
    induction texts with
    | nil => simpa [furtherChars] using closes
    | cons text texts ih =>
      rw [List.forall_mem_cons] at each
      simpa [furtherChars, each.1] using ih each.2
  cases texts with
  | nil => simpa [listingChars] using closes
  | cons text texts =>
    rw [List.forall_mem_cons] at each
    simpa [listingChars, each.1] using further texts each.2

theorem noControls_chars {j : Json} (whole : j.wholeNumbers = true) : NoControls j.chars := by
  induction j using inductionOn with
  | null => simp [chars, nullChars]
  | bool b => cases b <;> simp [chars, boolChars]
  | number n =>
    cases n with
    | integer n => exact noControls_intDigits n.val
    | float x => simp [wholeNumbers] at whole
  | string s => exact noControls_stringChars s
  | array items ih =>
    rw [wholeNumbers_array] at whole
    have each : ∀ text ∈ items.map chars, NoControls text := by
      intro text mem
      rcases List.mem_map.1 mem with ⟨item, there, rfl⟩
      exact ih item there (whole item there)
    rw [chars_array, noControls_cons]
    exact ⟨by decide, noControls_listingChars (by decide) each⟩
  | object members ih =>
    rw [wholeNumbers_object] at whole
    have each : ∀ text ∈ members.map memberChars, NoControls text := by
      intro text mem
      rcases List.mem_map.1 mem with ⟨member, there, rfl⟩
      simp [memberChars, noControls_stringChars, ih member there (whole member there)]
    rw [chars_object, noControls_cons]
    exact ⟨by decide, noControls_listingChars (by decide) each⟩

/-! ## A line read back -/

/-- A text is read as JSON of a value, members as they are written. -/
def ReadsAs (text : String) (j : Json) : Prop :=
  Reader.whole (Reader.json maxDepth) text.toList = .ok j

/-- Every text of a value is read as the value, with blanks or without. -/
theorem readsAs_spelled {j : Json} {text : List Char} (spells : Spells j text)
    (whole : j.wholeNumbers = true) (shallow : j.depth ≤ maxDepth) :
    ReadsAs (String.ofList text) j := by
  have answers := (answers_spelled spells whole maxDepth).whole
  rw [within_of_le shallow] at answers
  simpa [ReadsAs] using answers

/-- The end of the line does not belong to the value, and nothing else stands behind it. -/
theorem readsAs_line {j : Json} (whole : j.wholeNumbers = true) (shallow : j.depth ≤ maxDepth) :
    ReadsAs (j.render ++ "\n") j := by
  have settled : Settled ['\n'] := ⟨rfl, by decide, by decide, by decide⟩
  have taken := answers_json whole maxDepth ['\n'] settled
  rw [within_of_le shallow] at taken
  rw [ReadsAs, whole_eq_ok_iff]
  refine ⟨['\n'], ?_, by simp [isSpace]⟩
  simpa [render, Except.map] using taken

end Cellwise.Json
