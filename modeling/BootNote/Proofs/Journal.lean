import BootNote.Proofs.Action

/-!
Actions that ask nothing. `Quiet` says that no event of an action is a question to a source outside
the image, and an action that is put together from quiet ones is quiet. What such an action does
before or after another one leaves the questions of that one as they are (`questions_bind_left`,
`questions_bind_right`).
-/

set_option autoImplicit false
set_option relaxedAutoImplicit false

namespace BootNote

theorem Event.questions_append (first second : List Event) :
    Event.questions (first ++ second) = Event.questions first ++ Event.questions second :=
  List.filterMap_append

namespace Action

variable {σ τ α β : Type}

/-- An action asks no source outside the image, whatever state it starts from. -/
def Quiet (act : Action σ α) : Prop := ∀ s, Event.questions (act.run s).events = []

theorem quiet_pure (a : α) : (pure a : Action σ α).Quiet := fun _ ↦ rfl

theorem quiet_fail (e : Error) : (fail e : Action σ α).Quiet := fun _ ↦ rfl

theorem quiet_get : (get : Action σ σ).Quiet := fun _ ↦ rfl

theorem quiet_ofExcept (x : Except Error α) : (ofExcept x : Action σ α).Quiet := fun _ ↦ rfl

theorem quiet_emit {event : Event} (h : Event.questions [event] = []) :
    (emit event : Action σ Unit).Quiet := fun _ ↦ h

theorem quiet_update (change : σ → Except Error σ) : (update change).Quiet := by
  intro s
  cases h : change s with
  | ok s' => rw [run_update_ok h]; rfl
  | error e => rw [run_update_error h]; rfl

theorem quiet_updateEach (change : α → σ → Except Error σ) (as : List α) :
    (updateEach change as).Quiet := by
  induction as with
  | nil => exact fun _ ↦ rfl
  | cons a rest ih =>
    intro s
    cases h : change a s with
    | ok s' =>
      simp only [run, updateEach, h]
      exact ih s'
    | error e =>
      simp only [run, updateEach, h]
      rfl

variable {act : Action σ α} {next next' : α → Action σ β} {s s' : σ}

theorem questions_bind_right (hnext : ∀ a, (next a).Quiet) :
    Event.questions ((act >>= next).run s).events = Event.questions (act.run s).events := by
  rw [run_bind]
  cases (act.run s).result with
  | ok a => rw [Event.questions_append, hnext a, List.append_nil]
  | error e => rfl

theorem questions_bind_left {a : α} (hact : act.Quiet) (h : act.effect s = (.ok a, s')) :
    Event.questions ((act >>= next).run s).events =
      Event.questions ((next a).run s').events := by
  obtain ⟨hresult, hstate⟩ := Prod.mk.inj h
  rw [run_bind, hresult, hstate]
  dsimp only
  rw [Event.questions_append, hact s, List.nil_append]

theorem Quiet.bind (hact : act.Quiet) (hnext : ∀ a, (next a).Quiet) : (act >>= next).Quiet :=
  fun s ↦ (questions_bind_right hnext).trans (hact s)

/-- An event that happens under a condition asks nothing if the event is no question. -/
theorem Quiet.ite_emit {c : Prop} [Decidable c] {event : Event} {next : Unit → Action σ β}
    (h : Event.questions [event] = []) (hnext : (next ()).Quiet) :
    (if c then emit event >>= next else next ()).Quiet := by
  split_ifs
  · exact (quiet_emit h).bind fun _ ↦ hnext
  · exact hnext

theorem Quiet.within {inner : Action τ α} (hinner : inner.Quiet) (start : τ) :
    (within start inner : Action σ (α × τ)).Quiet := fun _ ↦ hinner start

/-- Two sequences have the same outcome if they begin alike and go on alike from there. -/
theorem run_bind_congr
    (h : ∀ a s', act.effect s = (.ok a, s') → (next a).run s' = (next' a).run s') :
    (act >>= next).run s = (act >>= next').run s := by
  rw [run_bind, run_bind]
  cases hresult : (act.run s).result with
  | ok a =>
    have hnext : (next a).run (act.run s).state = (next' a).run (act.run s).state :=
      h a _ (Prod.ext hresult rfl)
    simp only [hnext]
  | error e => rfl

end Action

end BootNote
