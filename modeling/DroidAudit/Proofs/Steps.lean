import DroidAudit.Exploit

/-! How steps are put together: what a step gives and leaves, and what it keeps. -/
namespace DroidAudit

namespace Step

variable {σ τ α β : Type}

theorem outcome_bind {step : Step σ α} {s s' : σ} {a : α} (h : step.outcome s = (.ok a, s'))
    (next : α → Step σ β) : (step >>= next).outcome s = (next a).outcome s' := by
  rw [outcome] at h
  rw [outcome, ExceptT.run_bind, StateT.run_bind, h]
  rfl

theorem outcome_bind_error {step : Step σ α} {s s' : σ} {e : Failure}
    (h : step.outcome s = (.error e, s')) (next : α → Step σ β) :
    (step >>= next).outcome s = (.error e, s') := by
  rw [outcome] at h
  rw [outcome, ExceptT.run_bind, StateT.run_bind, h]
  rfl

theorem outcome_discard {step : Step σ α} {s s' : σ} {a : α} (h : step.outcome s = (.ok a, s')) :
    (discard step).outcome s = (.ok (), s') := by
  have hmap : discard step = step >>= fun _ => pure () := rfl
  rw [hmap, outcome_bind h]
  rfl

theorem outcome_of (f : σ → Except Failure α × σ) (s : σ) : (Step.of f).outcome s = f s := rfl

/-- A step keeps a part of the state if it leaves it as it was, also when it fails. -/
def Keeps (part : σ → τ) (step : Step σ α) : Prop := ∀ s, part (step.outcome s).2 = part s

namespace Keeps

variable {part : σ → τ}

theorem pure (a : α) : Keeps part (Pure.pure a : Step σ α) := fun _ => rfl

theorem throw (e : Failure) : Keeps part (MonadExcept.throw e : Step σ α) := fun _ => rfl

theorem attempt {step : Step σ Unit} (h : Keeps part step) : Keeps part step.attempt := h

end Keeps

theorem part_bind (part : σ → τ) (step : Step σ α) {next : α → Step σ β}
    (h : ∀ a, Keeps part (next a)) (s : σ) :
    part ((step >>= next).outcome s).2 = part (step.outcome s).2 := by
  cases hstep : step.outcome s with
  | mk result s' =>
    cases result with
    | ok a => rw [outcome_bind hstep, h a s']
    | error e => rw [outcome_bind_error hstep]

theorem Keeps.bind {part : σ → τ} {step : Step σ α} {next : α → Step σ β} (hstep : Keeps part step)
    (hnext : ∀ a, Keeps part (next a)) : Keeps part (step >>= next) := fun s => by
  rw [part_bind part step hnext, hstep s]

end Step

namespace Desk

theorem outcome_perform {α : Type} (f : FileSystem → Except Failure α × FileSystem) (d : Desk)
    {a : α} {fs : FileSystem} (h : f d.fs = (.ok a, fs)) :
    (Desk.perform f).outcome d = (.ok a, { d with fs := fs }) := by
  rw [Desk.perform, Step.outcome_of, h]

theorem look_keeps {α τ : Type} (part : Desk → τ) (f : FileSystem → α) :
    (Desk.look f).Keeps part := fun _ => rfl

theorem change_keeps_calls (f : FileSystem → Except FileSystem.Fault FileSystem) :
    (Desk.change f).Keeps Desk.calls := fun d => by
  rw [Desk.change, Step.outcome_of]
  split <;> rfl

end Desk

namespace Exploit

theorem outcome_atDesk {α : Type} {work : Desk.Work α} {b : ExploitBench}
    {result : Except Failure α} {d : Desk} (h : work.outcome b.desk = (result, d)) :
    (atDesk work).outcome b = (result, { b with desk := d }) := by
  rw [atDesk, Step.within, Step.outcome_of, h]

theorem outcome_demand {α : Type} {get : Exploit → Option α} {b : ExploitBench} {a : α}
    (part : String) (h : get b.exploit = some a) : (demand part get).outcome b = (.ok a, b) := by
  have hcurrent : current.outcome b = (.ok b.exploit, b) := rfl
  rw [demand, Step.outcome_bind hcurrent, h]
  rfl

end Exploit
end DroidAudit
