import BootNote.Error
import BootNote.Journal

/-!
Actions: steps that change a state, leave events behind and may fail. An action that fails leaves
the state as far as it got, so what a failure spares is a theorem and not a convention. The lemmas
here say what sequencing, reading, changing and failing do to the three parts of an outcome.
-/

set_option autoImplicit false
set_option relaxedAutoImplicit false

namespace BootNote

/-- What an action leaves behind. -/
structure Outcome (σ α : Type) where
  result : Except Error α
  /-- The state when the action ended, whether or not it failed. -/
  state : σ
  /-- The events, in the order in which they happened. -/
  events : List Event

/-- A step on states of type `σ` that gives a value of type `α`. -/
def Action (σ α : Type) : Type := σ → Outcome σ α

namespace Action

variable {σ τ α β : Type}

/-- The outcome of an action on a state. -/
def run (act : Action σ α) (s : σ) : Outcome σ α := act s

/-- Gives a value and does nothing. -/
protected def pure (a : α) : Action σ α := fun s ↦ ⟨.ok a, s, []⟩

/-- Does one action and then, unless it fails, the next. -/
protected def bind (act : Action σ α) (next : α → Action σ β) : Action σ β := fun s ↦
  let first := act s
  match first.result with
  | .ok a =>
    let second := next a first.state
    ⟨second.result, second.state, first.events ++ second.events⟩
  | .error e => ⟨.error e, first.state, first.events⟩

instance : Monad (Action σ) where
  pure := Action.pure
  bind := Action.bind

/-- Fails. -/
def fail (e : Error) : Action σ α := fun s ↦ ⟨.error e, s, []⟩

/-- Reads the state. -/
def get : Action σ σ := fun s ↦ ⟨.ok s, s, []⟩

/-- Leaves an event behind. -/
def emit (event : Event) : Action σ Unit := fun s ↦ ⟨.ok (), s, [event]⟩

/-- Gives the value of a computation, or fails as it does. -/
def ofExcept (x : Except Error α) : Action σ α := fun s ↦ ⟨x, s, []⟩

/-- Changes the state, or fails and leaves it as it is. -/
def update (change : σ → Except Error σ) : Action σ Unit := fun s ↦
  match change s with
  | .ok s' => ⟨.ok (), s', []⟩
  | .error e => ⟨.error e, s, []⟩

/-- Changes the state once for each value of a list. The first change that fails ends it, and the
ones before it stay made. -/
@[specialize] def updateEach (change : α → σ → Except Error σ) : List α → Action σ Unit
  | [] => fun s ↦ ⟨.ok (), s, []⟩
  | a :: rest => fun s ↦
    match change a s with
    | .ok s' => updateEach change rest s'
    | .error e => ⟨.error e, s, []⟩

/-- Does an action on a state of its own, which it starts from and gives back with its value. -/
def within (start : τ) (act : Action τ α) : Action σ (α × τ) := fun s ↦
  let inner := act start
  ⟨inner.result.map fun a ↦ (a, inner.state), s, inner.events⟩

/-- Does an action and, if it fails, puts the state in order again. -/
def cleanup (act : Action σ α) (restore : σ → σ) : Action σ α := fun s ↦
  let first := act s
  match first.result with
  | .ok _ => first
  | .error _ => { first with state := restore first.state }

/-! ### Outcomes -/

@[simp] theorem run_pure (a : α) (s : σ) : (pure a : Action σ α).run s = ⟨.ok a, s, []⟩ := rfl

theorem run_bind (act : Action σ α) (next : α → Action σ β) (s : σ) :
    (act >>= next).run s =
      match (act.run s).result with
      | .ok a =>
        ⟨((next a).run (act.run s).state).result, ((next a).run (act.run s).state).state,
          (act.run s).events ++ ((next a).run (act.run s).state).events⟩
      | .error e => ⟨.error e, (act.run s).state, (act.run s).events⟩ := rfl

@[simp] theorem run_fail (e : Error) (s : σ) :
    (fail e : Action σ α).run s = ⟨.error e, s, []⟩ := rfl

@[simp] theorem run_get (s : σ) : (get : Action σ σ).run s = ⟨.ok s, s, []⟩ := rfl

@[simp] theorem run_emit (event : Event) (s : σ) :
    (emit event : Action σ Unit).run s = ⟨.ok (), s, [event]⟩ := rfl

@[simp] theorem run_ofExcept (x : Except Error α) (s : σ) :
    (ofExcept x : Action σ α).run s = ⟨x, s, []⟩ := rfl

theorem run_update_ok {change : σ → Except Error σ} {s s' : σ} (h : change s = .ok s') :
    (update change).run s = ⟨.ok (), s', []⟩ := by
  simp [run, update, h]

theorem run_update_error {change : σ → Except Error σ} {s : σ} {e : Error}
    (h : change s = .error e) : (update change).run s = ⟨.error e, s, []⟩ := by
  simp [run, update, h]

end Action

end BootNote
