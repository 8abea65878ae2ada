import Cellwise.Event

/-!
# Actions

An action runs on a state. It succeeds or fails, and either way it leaves a state and the events
that happened on the way. A failure does not undo what was done before it: that an operation leaves
the state alone when it fails is a theorem about the operation.

* `Action σ ε α` is the monad; `Report ε α` is an action without a state.
* `Action.inside` runs an action on a state of its own.
-/

namespace Cellwise

/-- What is left when an action has run. -/
structure Outcome (σ ε α : Type) where
  result : Except ε α
  state : σ
  events : List Event

/-- A computation on a state that may fail and reports events. -/
def Action (σ ε α : Type) := σ → Outcome σ ε α

/-- An action that has no state. -/
abbrev Report (ε α : Type) := Action Unit ε α

namespace Action

variable {σ τ ε δ α β : Type}

/-- Runs an action. -/
def run (action : Action σ ε α) (state : σ) : Outcome σ ε α := action state

/-- Answers without doing anything. -/
protected def pure (a : α) : Action σ ε α := fun state => ⟨.ok a, state, []⟩

/-- Goes on with the answer of an action, if it succeeds. -/
protected def bind (action : Action σ ε α) (next : α → Action σ ε β) : Action σ ε β := fun state =>
  let first := action state
  match first.result with
  | .error e => ⟨.error e, first.state, first.events⟩
  | .ok a =>
    let second := next a first.state
    ⟨second.result, second.state, first.events ++ second.events⟩

instance : Monad (Action σ ε) where
  pure := Action.pure
  bind := Action.bind

/-- Fails. -/
def fail (e : ε) : Action σ ε α := fun state => ⟨.error e, state, []⟩

/-- The answer of a computation that does nothing but answer. -/
def ofExcept (result : Except ε α) : Action σ ε α := fun state => ⟨result, state, []⟩

/-- The state. -/
def get : Action σ ε σ := fun state => ⟨.ok state, state, []⟩

/-- Changes the state. -/
def modify (f : σ → σ) : Action σ ε Unit := fun state => ⟨.ok (), f state, []⟩

/-- Reports an event. -/
def emit (event : Event) : Action σ ε Unit := fun state => ⟨.ok (), state, [event]⟩

/-- Notes a line in the log. -/
def log (level : Level) (target message : String) (fields : List (String × LogValue)) :
    Action σ ε Unit :=
  emit (.log { level, target, message, fields })

/-- Runs an action and answers with its success or failure. -/
def attempt (action : Action σ ε α) : Action σ δ (Except ε α) := fun state =>
  let outcome := action state
  ⟨.ok outcome.result, outcome.state, outcome.events⟩

/-- Puts the failure of an action into other words. -/
def mapError (f : ε → δ) (action : Action σ ε α) : Action σ δ α := fun state =>
  let outcome := action state
  ⟨outcome.result.mapError f, outcome.state, outcome.events⟩

/-- Runs an action on a state of its own, beginning with `start`, and answers with its answer and
the state it ends in. -/
def inside (start : τ) (action : Action τ ε α) : Action σ ε (α × τ) := fun state =>
  let outcome := action start
  ⟨outcome.result.map fun a => (a, outcome.state), state, outcome.events⟩

/-- Runs an action that has no state. -/
def ofReport (report : Report ε α) : Action σ ε α := fun state =>
  let outcome := report ()
  ⟨outcome.result, state, outcome.events⟩

/-! ## What running does -/

@[simp] theorem run_pure (a : α) (state : σ) :
    (pure a : Action σ ε α).run state = ⟨.ok a, state, []⟩ := rfl

theorem run_bind (action : Action σ ε α) (next : α → Action σ ε β) (state : σ) :
    (action >>= next).run state =
      match (action.run state).result with
      | .error e => ⟨.error e, (action.run state).state, (action.run state).events⟩
      | .ok a =>
        ⟨((next a).run (action.run state).state).result,
          ((next a).run (action.run state).state).state,
          (action.run state).events ++ ((next a).run (action.run state).state).events⟩ := rfl

@[simp] theorem run_fail (e : ε) (state : σ) :
    (fail e : Action σ ε α).run state = ⟨.error e, state, []⟩ := rfl

@[simp] theorem run_ofExcept (result : Except ε α) (state : σ) :
    (ofExcept result : Action σ ε α).run state = ⟨result, state, []⟩ := rfl

@[simp] theorem run_get (state : σ) :
    (get : Action σ ε σ).run state = ⟨.ok state, state, []⟩ := rfl

@[simp] theorem run_modify (f : σ → σ) (state : σ) :
    (modify f : Action σ ε Unit).run state = ⟨.ok (), f state, []⟩ := rfl

@[simp] theorem run_emit (event : Event) (state : σ) :
    (emit event : Action σ ε Unit).run state = ⟨.ok (), state, [event]⟩ := rfl

end Action

end Cellwise
