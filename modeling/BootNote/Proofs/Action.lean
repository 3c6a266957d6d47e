import BootNote.Action
import Mathlib.Tactic.Common

/-!
Actions without their events. `effect` keeps of an outcome the result and the state, and sequencing
is then a case split on the first result (`effect_bind`). What holds however an action ends is said
by `Ends`, with one condition for a success and one for a failure, and it is derived along the steps
of the action (`Ends.bind`).
-/

set_option autoImplicit false
set_option relaxedAutoImplicit false

namespace BootNote.Action

variable {σ α β : Type}

/-- The result of an action and the state that it leaves behind. -/
def effect (act : Action σ α) (s : σ) : Except Error α × σ :=
  ((act.run s).result, (act.run s).state)

theorem effect_bind (act : Action σ α) (next : α → Action σ β) (s : σ) :
    (act >>= next).effect s =
      match act.effect s with
      | (.ok a, s') => (next a).effect s'
      | (.error e, s') => (.error e, s') := by
  simp only [effect, run_bind]
  cases (act.run s).result <;> rfl

theorem effect_bind_ok {act : Action σ α} {s s' : σ} {a : α} (h : act.effect s = (.ok a, s'))
    (next : α → Action σ β) : (act >>= next).effect s = (next a).effect s' := by
  rw [effect_bind, h]

theorem effect_bind_error {act : Action σ α} {s s' : σ} {e : Error}
    (h : act.effect s = (.error e, s')) (next : α → Action σ β) :
    (act >>= next).effect s = (.error e, s') := by
  rw [effect_bind, h]

theorem effect_bind_eq_ok_iff {act : Action σ α} {next : α → Action σ β} {s s' : σ} {b : β} :
    (act >>= next).effect s = (.ok b, s') ↔
      ∃ a mid, act.effect s = (.ok a, mid) ∧ (next a).effect mid = (.ok b, s') := by
  rw [effect_bind]
  rcases act.effect s with ⟨e | a, mid⟩ <;> simp

@[simp] theorem effect_pure (a : α) (s : σ) : (pure a : Action σ α).effect s = (.ok a, s) := rfl

@[simp] theorem effect_get (s : σ) : (get : Action σ σ).effect s = (.ok s, s) := rfl

@[simp] theorem effect_emit (event : Event) (s : σ) :
    (emit event : Action σ Unit).effect s = (.ok (), s) := rfl

/-- An event that happens under a condition makes no difference to what follows it. -/
theorem effect_ite_emit (c : Prop) [Decidable c] (event : Event) (next : Unit → Action σ β)
    (s : σ) : (if c then emit event >>= next else next ()).effect s = (next ()).effect s := by
  split_ifs
  · rw [effect_bind_ok (effect_emit event s)]
  · rfl

@[simp] theorem effect_ofExcept (x : Except Error α) (s : σ) :
    (ofExcept x : Action σ α).effect s = (x, s) := rfl

theorem effect_update_ok {change : σ → Except Error σ} {s s' : σ} (h : change s = .ok s') :
    (update change).effect s = (.ok (), s') := by
  rw [effect, run_update_ok h]

theorem effect_update_total (change : σ → σ) (s : σ) :
    (update fun s ↦ .ok (change s)).effect s = (.ok (), change s) := rfl

theorem effect_update_error {change : σ → Except Error σ} {s : σ} {e : Error}
    (h : change s = .error e) : (update change).effect s = (.error e, s) := by
  rw [effect, run_update_error h]

@[simp] theorem effect_updateEach_nil (change : α → σ → Except Error σ) (s : σ) :
    (updateEach change []).effect s = (.ok (), s) := rfl

theorem effect_updateEach_cons {change : α → σ → Except Error σ} {a : α} {s s' : σ}
    (h : change a s = .ok s') (rest : List α) :
    (updateEach change (a :: rest)).effect s = (updateEach change rest).effect s' := by
  simp only [effect, run, updateEach, h]

/-- An action on a state of its own leaves the state around it alone. -/
theorem effect_within {τ : Type} (start : τ) (act : Action τ α) (s : σ) :
    (within start act).effect s =
      ((act.effect start).1.map fun a ↦ (a, (act.effect start).2), s) := rfl

/-- The state is put in order only after a failure. -/
theorem effect_cleanup (act : Action σ α) (restore : σ → σ) (s : σ) :
    (act.cleanup restore).effect s =
      match act.effect s with
      | (.ok a, s') => (.ok a, s')
      | (.error e, s') => (.error e, restore s') := by
  simp only [effect, run, cleanup]
  cases hresult : (act s).result <;> simp only [hresult]

/-! ### How an action ends -/

/-- From a state on, an action succeeds with a value and a state that are `good`, or it fails and
leaves a state that is `bad`. -/
def Ends (act : Action σ α) (s : σ) (good : α → σ → Prop) (bad : σ → Prop) : Prop :=
  match act.effect s with
  | (.ok a, s') => good a s'
  | (.error _, s') => bad s'

section Ends

variable {act : Action σ α} {next : α → Action σ β} {s s' : σ} {good mid : α → σ → Prop}
  {last : β → σ → Prop} {bad bad' : σ → Prop}

theorem Ends.of_ok (ends : act.Ends s good bad) {a : α} (h : act.effect s = (.ok a, s')) :
    good a s' := by
  rwa [Ends, h] at ends

theorem Ends.of_error (ends : act.Ends s good bad) {e : Error}
    (h : act.effect s = (.error e, s')) : bad s' := by
  rwa [Ends, h] at ends

theorem Ends.mono (ends : act.Ends s mid bad) (hgood : ∀ a s', mid a s' → good a s')
    (hbad : ∀ s', bad s' → bad' s') : act.Ends s good bad' := by
  unfold Ends at ends ⊢
  generalize act.effect s = outcome at ends ⊢
  obtain ⟨e | a, s'⟩ := outcome
  · exact hbad s' ends
  · exact hgood a s' ends

theorem Ends.bind (first : act.Ends s mid bad)
    (second : ∀ a s', mid a s' → (next a).Ends s' last bad) : (act >>= next).Ends s last bad := by
  unfold Ends at first ⊢
  rw [effect_bind]
  generalize act.effect s = outcome at first ⊢
  obtain ⟨e | a, s'⟩ := outcome
  · exact first
  · exact second a s' first

theorem Ends.of_get {next : σ → Action σ β} (ends : (next s).Ends s last bad) :
    (get >>= next).Ends s last bad := by
  rwa [Ends, effect_bind_ok (effect_get s)]

theorem Ends.of_emit {event : Event} {next : Unit → Action σ β}
    (ends : (next ()).Ends s last bad) : (emit event >>= next).Ends s last bad := by
  rwa [Ends, effect_bind_ok (effect_emit event s)]

theorem ends_pure {a : α} (h : good a s) : (pure a : Action σ α).Ends s good bad := h

/-- What is put in order after a failure is what a failure leaves. -/
theorem Ends.cleanup {restore : σ → σ} (ends : act.Ends s good bad)
    (restored : ∀ s', bad s' → bad' (restore s')) : (act.cleanup restore).Ends s good bad' := by
  unfold Ends at ends ⊢
  rw [effect_cleanup]
  generalize act.effect s = outcome at ends ⊢
  obtain ⟨e | a, s'⟩ := outcome
  · exact restored s' ends
  · exact ends

end Ends

end BootNote.Action
