import Cellwise.Action

/-!
# Effects

The effect of an action is what it answers together with the state it leaves; events do not count.
Effects of composed actions are computed from those of their parts. For a report, `Action.traced`
keeps the calls of readers besides the answer.
-/

namespace Cellwise

@[simp] theorem mapError_ok {ε δ α : Type} (f : ε → δ) (a : α) :
    (Except.ok a : Except ε α).mapError f = .ok a := rfl

@[simp] theorem mapError_error {ε δ α : Type} (f : ε → δ) (e : ε) :
    (Except.error e : Except ε α).mapError f = .error (f e) := rfl

theorem map_mapError {ε δ α β : Type} (f : ε → δ) (g : α → β) (result : Except ε α) :
    (result.mapError f).map g = (result.map g).mapError f := by
  cases result <;> rfl

namespace Action

variable {σ τ ε δ α β : Type}

/-- What an action answers and the state it leaves. -/
def effect (action : Action σ ε α) (state : σ) : Except ε α × σ :=
  ((action.run state).result, (action.run state).state)

section Parts

variable {first : Action σ ε α} {next : α → Action σ ε β} {state later : σ}

theorem effect_bind_of_ok {a : α} (ok : first.effect state = (.ok a, later)) :
    (first >>= next).effect state = (next a).effect later := by
  rcases Prod.mk.inj ok with ⟨result, rfl⟩
  simp [effect, run_bind, result]

theorem effect_bind_of_error {e : ε} (error : first.effect state = (.error e, later)) :
    (first >>= next).effect state = (.error e, later) := by
  rcases Prod.mk.inj error with ⟨result, rfl⟩
  simp [effect, run_bind, result]

theorem effect_bind_eq_ok_iff {b : β} {last : σ} :
    (first >>= next).effect state = (.ok b, last) ↔
      ∃ a later, first.effect state = (.ok a, later) ∧ (next a).effect later = (.ok b, last) := by
  constructor
  · intro ok
    rcases run : first.effect state with ⟨result, later⟩
    cases result with
    | error e =>
      rw [effect_bind_of_error run] at ok
      simp at ok
    | ok a =>
      rw [effect_bind_of_ok run] at ok
      exact ⟨a, later, rfl, ok⟩
  · rintro ⟨a, later, run, ok⟩
    rw [effect_bind_of_ok run, ok]

end Parts

@[simp] theorem effect_pure (a : α) (state : σ) :
    (pure a : Action σ ε α).effect state = (.ok a, state) := rfl

@[simp] theorem effect_ofExcept (result : Except ε α) (state : σ) :
    (ofExcept result : Action σ ε α).effect state = (result, state) := rfl

@[simp] theorem effect_log (level : Level) (target message : String)
    (fields : List (String × LogValue)) (state : σ) :
    (log level target message fields : Action σ ε Unit).effect state = (.ok (), state) := rfl

@[simp] theorem effect_attempt (action : Action σ ε α) (state : σ) :
    (attempt action : Action σ δ (Except ε α)).effect state =
      (.ok (action.effect state).1, (action.effect state).2) := rfl

@[simp] theorem effect_mapError (f : ε → δ) (action : Action σ ε α) (state : σ) :
    (action.mapError f).effect state =
      ((action.effect state).1.mapError f, (action.effect state).2) := rfl

theorem effect_mapError_of_ok {action : Action σ ε α} {state later : σ} {a : α}
    (ok : action.effect state = (.ok a, later)) (f : ε → δ) :
    (action.mapError f).effect state = (.ok a, later) := by
  rw [effect_mapError, ok, mapError_ok]

theorem effect_mapError_of_error {action : Action σ ε α} {state later : σ} {e : ε}
    (error : action.effect state = (.error e, later)) (f : ε → δ) :
    (action.mapError f).effect state = (.error (f e), later) := by
  rw [effect_mapError, error, mapError_error]

@[simp] theorem effect_ofReport (report : Report ε α) (state : σ) :
    (ofReport report : Action σ ε α).effect state = ((report.effect ()).1, state) := rfl

/-- An action that runs on a state of its own and succeeds answers with what it leaves there. -/
theorem effect_inside_of_ok {action : Action τ ε α} {start last : τ} {a : α}
    (ok : action.effect start = (.ok a, last)) (state : σ) :
    (inside start action).effect state = (.ok (a, last), state) := by
  rcases Prod.mk.inj ok with ⟨result, rfl⟩
  change (((action.run start).result.map fun a => (a, (action.run start).state)), state) = _
  rw [result]
  rfl

/-- An action that runs on a state of its own and fails says why. -/
theorem effect_inside_of_error {action : Action τ ε α} {start last : τ} {e : ε}
    (error : action.effect start = (.error e, last)) (state : σ) :
    (inside start action).effect state = (.error e, state) := by
  rcases Prod.mk.inj error with ⟨result, rfl⟩
  change (((action.run start).result.map fun a => (a, (action.run start).state)), state) = _
  rw [result]
  rfl

end Action

/-! ## Calls of readers -/

/-- The type and the source of a call of a reader. -/
def Event.readerCall? : Event → Option (String × String)
  | readerCall type source => some (type, source)
  | _ => none

namespace Action

variable {ε δ α β : Type}

/-- What a report answers, and the calls of readers it makes in their order. -/
def traced (report : Report ε α) : Except ε α × List (String × String) :=
  ((report.run ()).result, (report.run ()).events.filterMap Event.readerCall?)

theorem effect_eq_traced (report : Report ε α) : report.effect () = (report.traced.1, ()) := rfl

section Calls

variable {first : Report ε α} {next : α → Report ε β} {calls : List (String × String)}

theorem traced_bind_of_ok {a : α} (ok : first.traced = (.ok a, calls)) :
    traced (first >>= next) = ((next a).traced.1, calls ++ (next a).traced.2) := by
  rcases Prod.mk.inj ok with ⟨result, rfl⟩
  simp [traced, run_bind, result]

theorem traced_bind_of_error {e : ε} (error : first.traced = (.error e, calls)) :
    traced (first >>= next) = (.error e, calls) := by
  rcases Prod.mk.inj error with ⟨result, rfl⟩
  simp [traced, run_bind, result]

end Calls

/-- Looking at what a report answers takes the calls of the report. -/
theorem traced_attempt_of_eq {report : Report ε α} {answer : Except ε α}
    {calls : List (String × String)} (traces : report.traced = (answer, calls)) :
    traced (attempt report : Report δ _) = (.ok answer, calls) := by
  rcases Prod.mk.inj traces with ⟨rfl, rfl⟩
  rfl

end Action

end Cellwise
