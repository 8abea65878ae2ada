import Cellwise.CommandLine.Commands
import Cellwise.Proofs.Effect

/-!
# What actions print

* `Action.output` is all that a run prints, in order; log lines and calls of readers do not count.
* `Action.Silent` says that an action prints nothing on any state. There is a rule for each way of
  putting actions together.
* `Action.Prints report text` says that a report succeeds and prints a text.
-/

namespace Cellwise

namespace Action

variable {σ τ ε δ α β : Type}

/-- All that a run prints. -/
def output (action : Action σ ε α) (state : σ) : String :=
  String.join ((action.run state).events.map Event.printed)

section Parts

variable {first : Action σ ε α} {next : α → Action σ ε β} {state later : σ}

theorem output_bind_of_ok {a : α} (ok : first.effect state = (.ok a, later)) :
    (first >>= next).output state = first.output state ++ (next a).output later := by
  rcases Prod.mk.inj ok with ⟨result, rfl⟩
  simp [output, run_bind, result, String.join_append]

theorem output_bind_of_error {e : ε} (error : first.effect state = (.error e, later)) :
    (first >>= next).output state = first.output state := by
  rcases Prod.mk.inj error with ⟨result, rfl⟩
  simp [output, run_bind, result]

end Parts

/-! ## Silence -/

/-- An action that prints nothing. -/
structure Silent (action : Action σ ε α) : Prop where
  output_eq : ∀ state, action.output state = ""

theorem silent_pure (a : α) : (pure a : Action σ ε α).Silent := ⟨fun _ => rfl⟩

theorem silent_fail (e : ε) : (fail e : Action σ ε α).Silent := ⟨fun _ => rfl⟩

theorem silent_ofExcept (result : Except ε α) : (ofExcept result : Action σ ε α).Silent :=
  ⟨fun _ => rfl⟩

theorem silent_get : (get : Action σ ε σ).Silent := ⟨fun _ => rfl⟩

theorem silent_modify (f : σ → σ) : (modify f : Action σ ε Unit).Silent := ⟨fun _ => rfl⟩

theorem silent_log (level : Level) (target message : String)
    (fields : List (String × LogValue)) :
    (log level target message fields : Action σ ε Unit).Silent := ⟨fun _ => rfl⟩

theorem silent_readerCall (type source : String) :
    (emit (.readerCall type source) : Action σ ε Unit).Silent := ⟨fun _ => rfl⟩

namespace Silent

theorem bind {first : Action σ ε α} {next : α → Action σ ε β} (silent : first.Silent)
    (silent' : ∀ a, (next a).Silent) : (first >>= next).Silent := by
  refine ⟨fun state => ?_⟩
  rcases run : first.effect state with ⟨result, later⟩
  cases result with
  | error e => rw [output_bind_of_error run, silent.output_eq]
  | ok a =>
    rw [output_bind_of_ok run, silent.output_eq, (silent' a).output_eq, String.append_empty]

theorem mapError {action : Action σ ε α} (silent : action.Silent) (f : ε → δ) :
    (action.mapError f).Silent := ⟨silent.output_eq⟩

theorem attempt {action : Action σ ε α} (silent : action.Silent) :
    (attempt action : Action σ δ (Except ε α)).Silent := ⟨silent.output_eq⟩

theorem inside {action : Action τ ε α} (silent : action.Silent) (start : τ) :
    (inside start action : Action σ ε (α × τ)).Silent := ⟨fun _ => silent.output_eq start⟩

theorem ofReport {report : Report ε α} (silent : report.Silent) :
    (ofReport report : Action σ ε α).Silent := ⟨fun _ => silent.output_eq ()⟩

end Silent

/-! ## Reports that print a text -/

/-- A report that succeeds and prints a text. -/
structure Prints (report : Report ε Unit) (text : String) : Prop where
  succeeds : report.effect () = (.ok (), ())
  output_eq : report.output () = text

namespace Prints

/-- A silent report in front adds nothing to what is printed. -/
theorem behind {first : Report ε α} {next : α → Report ε Unit} {a : α} {text : String}
    (ok : first.effect () = (.ok a, ())) (silent : first.Silent) (prints : Prints (next a) text) :
    Prints (first >>= next) text where
  succeeds := by rw [effect_bind_of_ok ok, prints.succeeds]
  output_eq := by rw [output_bind_of_ok ok, silent.output_eq, prints.output_eq, String.empty_append]

theorem printLine (line : String) : Prints (Console.printLine line) (line ++ "\n") where
  succeeds := rfl
  output_eq := by simp [output, Console.printLine, Event.printed]

/-- Lines printed one after another make up one text. -/
theorem forM_printLine (lines : List String) :
    Prints (lines.forM Console.printLine) (String.join (lines.map fun line => line ++ "\n")) := by
  induction lines with
  | nil => exact ⟨rfl, rfl⟩
  | cons line lines ih =>
    rw [List.forM_eq_forM] at ih ⊢
    rw [List.forM_cons, List.map_cons, String.join_cons]
    have first := printLine line
    refine ⟨?_, ?_⟩
    · rw [effect_bind_of_ok first.succeeds, ih.succeeds]
    · rw [output_bind_of_ok first.succeeds, first.output_eq, ih.output_eq]

end Prints

end Action

end Cellwise
