import DisplaySurface.Buffer.Slot

/-!
The meeting point of a returning caller and the render thread, with room for one frame. The caller
offers a frame, the render thread takes it and later finishes it, and the caller collects the outcome.
-/

namespace DisplaySurface

abbrev Outcome := Except SessionError Unit

/-- A frame on its way to the render thread: the buffer as it stood when it was returned. -/
structure Submission where
  buffer : LiveBuffer
  layers : List Layer
  deriving DecidableEq, Repr

inductive Handoff where
  | idle
  | ready (frame : Submission)
  | rendering
  | done (outcome : Outcome)

namespace Handoff

def isIdle : Handoff → Bool
  | idle => true
  | _ => false

def isReady : Handoff → Bool
  | ready _ => true
  | _ => false

def isDone : Handoff → Bool
  | done _ => true
  | _ => false

theorem ready_of_isReady {h : Handoff} (ready : h.isReady = true) : ∃ frame, h = .ready frame := by
  cases h with
  | ready frame => exact ⟨frame, rfl⟩
  | idle | rendering | done => cases ready

theorem done_of_isDone {h : Handoff} (done : h.isDone = true) : ∃ outcome, h = .done outcome := by
  cases h with
  | done outcome => exact ⟨outcome, rfl⟩
  | idle | ready | rendering => cases done

def phase : Handoff → String
  | idle => "Idle"
  | ready _ => "Ready"
  | rendering => "Rendering"
  | done _ => "Done"

def offer (frame : Submission) : Handoff → Except SessionError Unit × Handoff
  | idle => (.ok (), ready frame)
  | h => (.error .frameInFlight, h)

def take : Handoff → Option Submission × Handoff
  | ready frame => (some frame, rendering)
  | h => (none, h)

/-- Whether the frame was still wanted, and the handoff afterwards. -/
def finish (outcome : Outcome) : Handoff → Bool × Handoff
  | rendering => (true, done outcome)
  | h => (false, h)

def collect : Handoff → Option Outcome × Handoff
  | done outcome => (some outcome, idle)
  | h => (none, h)

def withdraw : Handoff → Handoff
  | ready _ => idle
  | h => h

def reset : Handoff → Handoff
  | _ => idle

@[simp] theorem withdraw_collect_eq_rendering (h : Handoff) :
    h.collect.2.withdraw = rendering ↔ h = rendering := by
  cases h <;> simp [collect, withdraw]

@[simp] theorem withdraw_collect_eq_idle (h : Handoff) :
    h.collect.2.withdraw = idle ↔ h ≠ rendering := by
  cases h <;> simp [collect, withdraw]

@[simp] theorem withdraw_collect_isReady (h : Handoff) : h.collect.2.withdraw.isReady = false := by
  cases h <;> rfl

end Handoff

end DisplaySurface
