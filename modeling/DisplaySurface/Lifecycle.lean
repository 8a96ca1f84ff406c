import DisplaySurface.SessionError

/-!
The life of the render thread: stopped, running, stopping and stopped again, in this order only.
-/

namespace DisplaySurface

inductive Lifecycle where
  | stopped
  | stopping
  | running
  deriving DecidableEq, Repr

inductive LifecycleEvent where
  | start
  /-- A shutdown was asked for, or the thread gave up by itself. -/
  | stop
  | exited
  deriving DecidableEq, Repr

def LifecycleEvent.name : LifecycleEvent → String
  | start => "Start"
  | stop => "Stop"
  | exited => "Exited"

namespace Lifecycle

def name : Lifecycle → String
  | stopped => "Stopped"
  | stopping => "Stopping"
  | running => "Running"

def isRunning : Lifecycle → Bool
  | running => true
  | stopped | stopping => false

def after? : Lifecycle → LifecycleEvent → Option Lifecycle
  | stopped, .start => some running
  | running, .stop => some stopping
  | stopping, .exited => some stopped
  | _, _ => none

def transition (l : Lifecycle) (e : LifecycleEvent) : Except SessionError Lifecycle :=
  match l.after? e with
  | some next => .ok next
  | none => .error (.invalidState s!"render thread cannot handle {e.name} while {l.name}")

/-- A refused event changes nothing. -/
def apply (l : Lifecycle) (e : LifecycleEvent) : Lifecycle :=
  (l.after? e).getD l

theorem isRunning_eq_true_iff (l : Lifecycle) : l.isRunning = true ↔ l = .running := by
  cases l <;> decide

theorem isRunning_eq_false_iff (l : Lifecycle) : l.isRunning = false ↔ l ≠ .running := by
  cases l <;> decide

end Lifecycle

end DisplaySurface
