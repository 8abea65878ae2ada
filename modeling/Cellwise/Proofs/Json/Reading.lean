import Mathlib.Data.List.TakeWhile
import Cellwise.Json.Reader

/-!
# What a reader takes off a text

* `Answers reader text answer` says what a reader answers to a text, whatever stands behind it, as
  long as that cannot make a number in front of it longer. `Reads` is the case of a value.
* `Iterates` describes the runs of the loop `Reader.iterate` without the bound on its steps, which
  never counts; `iterate_eq` says that every run so described is what the loop does.
-/

namespace Cellwise.Json.Reader

variable {α β σ : Type}

/-! ## One reader after another -/

theorem bind_of_ok {first : Reader α} {next : α → Reader β} {input rest : List Char} {a : α}
    (ok : first input = .ok (a, rest)) : (first >>= next) input = next a rest := by
  simp [bind, StateT.bind, ok, Except.bind]

theorem bind_of_error {first : Reader α} {next : α → Reader β} {input : List Char} {fault : Fault}
    (error : first input = .error fault) : (first >>= next) input = .error fault := by
  simp [bind, StateT.bind, error, Except.bind]

/-- What a reader answers depends on the text only by what it begins with does. -/
theorem bind_eq_of_eq {first : Reader α} {input other : List Char} (same : first input = first other)
    (next : α → Reader β) : (first >>= next) input = (first >>= next) other := by
  simp [bind, StateT.bind, same]

@[simp] theorem pure_apply (a : α) (input : List Char) :
    (pure a : Reader α) input = .ok (a, input) := rfl

@[simp] theorem drop_cons (c : Char) (rest : List Char) : drop (c :: rest) = .ok ((), rest) := rfl

/-- Blanks in front are skipped, and the character behind them is seen but not taken. -/
theorem peek_append (blanks rest : List Char) (c : Char) (blank : ∀ b ∈ blanks, isSpace b)
    (solid : isSpace c = false) :
    peek (blanks ++ c :: rest) = .ok (some c, c :: rest) := by
  have skipped : (blanks ++ c :: rest).dropWhile isSpace = c :: rest := by
    rw [List.dropWhile_append_of_pos blank, List.dropWhile_cons_of_neg (by simp [solid])]
  rw [peek, skipped]
  rfl

theorem peek_blank_append {blanks : List Char} (blank : ∀ b ∈ blanks, isSpace b)
    (rest : List Char) : peek (blanks ++ rest) = peek rest := by
  rw [peek, peek, List.dropWhile_append_of_pos blank]

theorem peek_cons (rest : List Char) {c : Char} (solid : isSpace c = false) :
    peek (c :: rest) = .ok (some c, c :: rest) :=
  peek_append [] rest c (by simp) solid

/-! ## Texts that are read -/

/-- Texts that no number in front of them runs into. -/
def Settled : List Char → Prop
  | [] => True
  | c :: _ => c.isDigit = false ∧ c ≠ '.' ∧ c ≠ 'e' ∧ c ≠ 'E'

/-- What a reader answers to a text: a fault, or a value once the text has been taken. -/
def Answers (reader : Reader α) (text : List Char) (answer : Except Fault α) : Prop :=
  ∀ rest, Settled rest → reader (text ++ rest) = answer.map (·, rest)

/-- A reader takes a text for a value and leaves what stands behind it. -/
abbrev Reads (reader : Reader α) (text : List Char) (a : α) : Prop := Answers reader text (.ok a)

theorem Answers.whole {reader : Reader α} {text : List Char} {answer : Except Fault α}
    (answers : Answers reader text answer) : Reader.whole reader text = answer := by
  -- Nothing stands behind a whole text.
  have all := answers [] trivial
  rw [List.append_nil] at all
  cases answer <;> simp [Reader.whole, all, bind, Except.bind, Except.map]

/-- A whole text is read as what is taken off its front if only blanks are left. -/
theorem whole_eq_ok_iff {reader : Reader α} {text : List Char} {a : α} :
    whole reader text = .ok a ↔
      ∃ rest, reader text = .ok (a, rest) ∧ ∀ c ∈ rest, isSpace c = true := by
  have blank_iff (rest : List Char) :
      (rest.dropWhile isSpace).isEmpty = true ↔ ∀ c ∈ rest, isSpace c = true := by
    rw [List.isEmpty_iff, List.dropWhile_eq_nil_iff]
  cases taken : reader text with
  | error fault => simp [whole, taken, bind, Except.bind]
  | ok outcome =>
    rcases outcome with ⟨b, rest⟩
    simp only [whole, taken, bind, Except.bind]
    constructor
    · intro read
      split at read
      next blank =>
        cases read
        exact ⟨rest, rfl, (blank_iff rest).1 blank⟩
      next => cases read
    · rintro ⟨other, same, blank⟩
      cases same
      rw [if_pos ((blank_iff rest).2 blank)]

/-- What a reader answers behind a text that another one takes, whatever follows. -/
theorem Answers.behind {first : Reader α} {next : α → Reader β} {text more : List Char} {a : α}
    {answer : Except Fault β} (taken : ∀ rest, first (text ++ rest) = .ok (a, rest))
    (answers : Answers (next a) more answer) : Answers (first >>= next) (text ++ more) answer := by
  intro rest settled
  rw [List.append_assoc, bind_of_ok (taken _)]
  exact answers rest settled

theorem Answers.behind_drop {next : Reader α} {c : Char} {text : List Char}
    {answer : Except Fault α} (answers : Answers next text answer) :
    Answers (drop >>= fun _ => next) (c :: text) answer := by
  intro rest settled
  rw [List.cons_append, bind_of_ok (drop_cons c _)]
  exact answers rest settled

/-- What a reader refuses is refused by all that begins with the reader. -/
theorem Answers.error_bind {first : Reader α} {text : List Char} {fault : Fault}
    (answers : Answers first text (.error fault)) (next : α → Reader β) :
    Answers (first >>= next) text (.error fault) := by
  intro rest settled
  exact bind_of_error (answers rest settled)

theorem Answers.map {reader : Reader α} {text : List Char} {answer : Except Fault α}
    (answers : Answers reader text answer) (f : α → β) :
    Answers (reader >>= fun a => pure (f a)) text (answer.map f) := by
  intro rest settled
  have all := answers rest settled
  cases answer with
  | error fault => exact bind_of_error all
  | ok a => exact bind_of_ok all

/-! ## Loops -/

/-- The runs of a loop: a step may stop it, may fail, or may lead to a next state by taking
something off the text. -/
inductive Iterates (step : σ → Reader (Option σ)) :
    σ → List Char → Except Fault (σ × List Char) → Prop where
  | stop {state : σ} {input rest : List Char} (stopped : step state input = .ok (none, rest)) :
      Iterates step state input (.ok (state, rest))
  | fault {state : σ} {input : List Char} {fault : Fault}
      (failed : step state input = .error fault) : Iterates step state input (.error fault)
  | next {state next : σ} {input rest : List Char} {result : Except Fault (σ × List Char)}
      (went : step state input = .ok (some next, rest)) (shorter : rest.length < input.length)
      (later : Iterates step next rest result) : Iterates step state input result

theorem iterateFrom_eq {step : σ → Reader (Option σ)} {state : σ} {input : List Char}
    {result : Except Fault (σ × List Char)} (run : Iterates step state input result) (fuel : Nat)
    (enough : input.length < fuel) : iterateFrom step fuel state input = result := by
  -- A step that goes on takes at least one character, so that the fuel outlasts the text.
  induction run generalizing fuel with
  | stop stopped =>
    cases fuel with
    | zero => omega
    | succ fuel => simp [iterateFrom, stopped]
  | fault failed =>
    cases fuel with
    | zero => omega
    | succ fuel => simp [iterateFrom, failed]
  | next went shorter later ih =>
    cases fuel with
    | zero => omega
    | succ fuel => simpa [iterateFrom, went] using ih fuel (by omega)

theorem iterate_eq {step : σ → Reader (Option σ)} {state : σ} {input : List Char}
    {result : Except Fault (σ × List Char)} (run : Iterates step state input result) :
    iterate step state input = result :=
  iterateFrom_eq run _ (by omega)

end Cellwise.Json.Reader
