import Mathlib.Data.List.Basic

/-!
# Nested brackets

A text has nested round, square and angle brackets if every closing bracket closes the innermost
one that is open, and none is open in the end. The brackets that a text waits for are kept on a
stack, the next one on top.

* `Text.Nested` is decided by going through the text once.
* `Text.Nested.append_iff` and `Text.Nested.enclosed` put nested texts together.
* `Text.Nested.not_nested_tail` says that a text is torn where a bracket is open.
-/

namespace Cellwise.Text

/-- The bracket that closes what an opening one opens. -/
def closing? : Char → Option Char
  | '(' => some ')'
  | '[' => some ']'
  | '<' => some '>'
  | _ => none

/-- Is a character a closing bracket? -/
def isClosing (c : Char) : Bool := c = ')' || c = ']' || c = '>'

/-- Characters that are no brackets. -/
def Plain (text : List Char) : Prop := ∀ c ∈ text, closing? c = none ∧ isClosing c = false

instance (text : List Char) : Decidable (Plain text) := List.decidableBAll _ text

/-- What is waited for behind a character, if it does not close the wrong bracket. -/
def await (waiting : List Char) (c : Char) : Option (List Char) :=
  match closing? c with
  | some close => some (close :: waiting)
  | none =>
    if isClosing c then
      match waiting with
      | [] => none
      | next :: outer => if next = c then some outer else none
    else some waiting

/-- What is waited for behind a text. -/
def awaitAll (waiting text : List Char) : Option (List Char) := text.foldlM await waiting

/-- Every bracket that is opened is closed again, the innermost first. -/
def Nested (text : List Char) : Prop := awaitAll [] text = some []

instance (text : List Char) : Decidable (Nested text) :=
  inferInstanceAs (Decidable (awaitAll [] text = some []))

example : Nested "&[(u8, alloc::vec::Vec<u8>)]".toList := by decide

/-! ## Characters -/

theorem eq_of_closing? {bracket close : Char} (pair : closing? bracket = some close) :
    bracket = '(' ∧ close = ')' ∨ bracket = '[' ∧ close = ']' ∨ bracket = '<' ∧ close = '>' := by
  unfold closing? at pair
  split at pair <;> cases pair <;> simp

theorem await_opening {bracket close : Char} (pair : closing? bracket = some close)
    (waiting : List Char) : await waiting bracket = some (close :: waiting) := by
  simp [await, pair]

theorem await_closing {bracket close : Char} (pair : closing? bracket = some close)
    (waiting : List Char) : await (close :: waiting) close = some waiting := by
  rcases eq_of_closing? pair with ⟨-, rfl⟩ | ⟨-, rfl⟩ | ⟨-, rfl⟩ <;> rfl

/-- Nothing is closed where nothing is open. -/
theorem await_closing_nil {bracket close : Char} (pair : closing? bracket = some close) :
    await [] close = none := by
  rcases eq_of_closing? pair with ⟨-, rfl⟩ | ⟨-, rfl⟩ | ⟨-, rfl⟩ <;> rfl

/-- What is waited for further out makes no difference. -/
theorem await_frame {waiting later : List Char} {c : Char} (step : await waiting c = some later)
    (outer : List Char) : await (waiting ++ outer) c = some (later ++ outer) := by
  unfold await at step ⊢
  cases opened : closing? c with
  | some close =>
    obtain rfl : close :: waiting = later := by simpa [opened] using step
    rfl
  | none =>
    by_cases closed : isClosing c = true
    · cases waiting with
      | nil => simp [opened, closed] at step
      | cons next inner =>
        obtain ⟨rfl, rfl⟩ : next = c ∧ inner = later := by simpa [opened, closed] using step
        simp [closed]
    · obtain rfl : waiting = later := by simpa [opened, closed] using step
      simp [closed]

theorem Plain.not_mem {text : List Char} {bracket close : Char} (plain : Plain text)
    (pair : closing? bracket = some close) : bracket ∉ text := by
  intro mem
  have none_closes := (plain bracket mem).1
  rw [pair] at none_closes
  cases none_closes

/-! ## Texts -/

theorem awaitAll_cons (waiting : List Char) (c : Char) (rest : List Char) :
    awaitAll waiting (c :: rest) = (await waiting c).bind (awaitAll · rest) := List.foldlM_cons

theorem awaitAll_append (waiting text more : List Char) :
    awaitAll waiting (text ++ more) = (awaitAll waiting text).bind (awaitAll · more) :=
  List.foldlM_append

theorem awaitAll_frame {waiting later text : List Char}
    (steps : awaitAll waiting text = some later) (outer : List Char) :
    awaitAll (waiting ++ outer) text = some (later ++ outer) := by
  induction text generalizing waiting with
  | nil =>
    obtain rfl : waiting = later := Option.some.inj steps
    rfl
  | cons c rest ih =>
    rw [awaitAll_cons] at steps ⊢
    obtain ⟨between, first, further⟩ := Option.bind_eq_some_iff.1 steps
    rw [await_frame first outer]
    exact ih further

theorem Plain.awaitAll_eq {text : List Char} (plain : Plain text) (waiting : List Char) :
    awaitAll waiting text = some waiting := by
  induction text with
  | nil => rfl
  | cons c rest ih =>
    obtain ⟨⟨opens, closes⟩, later⟩ := List.forall_mem_cons.1 plain
    have first : await waiting c = some waiting := by simp [await, opens, closes]
    rw [awaitAll_cons, first]
    exact ih later

namespace Nested

variable {text more inner : List Char}

theorem nil : Nested [] := rfl

theorem of_plain (plain : Plain text) : Nested text := plain.awaitAll_eq []

theorem awaitAll_eq (nested : Nested text) (waiting : List Char) :
    awaitAll waiting text = some waiting := awaitAll_frame nested waiting

theorem append_iff (nested : Nested text) : Nested (text ++ more) ↔ Nested more := by
  rw [Nested, awaitAll_append, nested.awaitAll_eq]
  rfl

theorem append (nested : Nested text) (further : Nested more) : Nested (text ++ more) :=
  nested.append_iff.2 further

variable {bracket close : Char} (pair : closing? bracket = some close)

include pair

theorem enclosed (nested : Nested inner) : Nested (bracket :: (inner ++ [close])) := by
  calc awaitAll [] (bracket :: (inner ++ [close]))
      = awaitAll [close] (inner ++ [close]) := by
          rw [awaitAll_cons, await_opening pair]
          rfl
    _ = awaitAll [close] [close] := by
          rw [awaitAll_append, nested.awaitAll_eq]
          rfl
    _ = some [] := by
          rw [awaitAll_cons, await_closing pair]
          rfl

/-- The end of what stands in brackets is torn off with the closing bracket but without the
opening one. -/
theorem not_nested_tail (nested : Nested (text ++ more)) : ¬Nested (more ++ [close]) := by
  intro torn
  rw [Nested, awaitAll_append] at nested torn
  obtain ⟨waiting, -, closed⟩ := Option.bind_eq_some_iff.1 nested
  obtain ⟨left, first, last⟩ := Option.bind_eq_some_iff.1 torn
  -- The end leaves nothing open in its place, and so it leaves nothing open by itself.
  have framed : awaitAll waiting more = some (left ++ waiting) := awaitAll_frame first waiting
  obtain ⟨rfl, -⟩ : left = [] ∧ waiting = [] := by simpa [closed] using framed
  rw [awaitAll_cons, await_closing_nil pair] at last
  cases last

end Nested

end Cellwise.Text
