import DisplaySurface.Handoff
import DisplaySurface.Lifecycle
import DisplaySurface.Interface
import DisplaySurface.Visibility

/-!
The state of a session that stands behind its lock. Each operation of the two modules beside this one is
one section that holds the lock from its start to its end.
-/

namespace DisplaySurface

structure Tally where
  presented : Nat := 0
  discarded : Nat := 0
  composeFailures : Nat := 0
  presentFailures : Nat := 0
  deriving DecidableEq, Repr

def Tally.shown (t : Tally) : String :=
  "SessionStats \x7b " ++ s!"frames_presented: {t.presented}, frames_discarded: {t.discarded}, "
    ++ s!"compose_failures: {t.composeFailures}, present_failures: {t.presentFailures}" ++ " \x7d"

/-- `fault` is the error that ended the render thread; once it is set the thread is never started
again. `hasRenderer` holds until the renderer went to a render thread. `past` is a history, the latest
first: every event that was passed to the thread's life, refused or not, and the state that it met. -/
structure Session where
  slot : Slot
  requested : Visibility := .notVisible
  thread : Lifecycle := .stopped
  handoff : Handoff := .idle
  fault : Option SessionError := none
  tally : Tally := {}
  hasRenderer : Bool := true
  past : List (Lifecycle × LifecycleEvent) := []

namespace Session

def new (shape : BufferShape) : Session :=
  { slot := Slot.new shape }

def isDead (s : Session) : Bool :=
  s.requested = .dead

def isCancelled (s : Session) : Bool :=
  s.isDead || !s.thread.isRunning

theorem isCancelled_eq_true_iff (s : Session) :
    s.isCancelled = true ↔ s.isDead = true ∨ s.thread ≠ .running := by
  simp [isCancelled, Lifecycle.isRunning_eq_false_iff]

theorem isCancelled_eq_false {s : Session} (alive : s.isDead = false) (running : s.thread = .running) :
    s.isCancelled = false := by
  simp [isCancelled, alive, running, Lifecycle.isRunning]

theorem isDead_request {s : Session} {wanted : Visibility} (alive : s.isDead = false)
    (legal : wanted ≠ .dead) : ({ s with requested := wanted } : Session).isDead = s.isDead := by
  rw [alive]
  simp [isDead, legal]

/-- Passes an event to the render thread's life; one that is out of order is only written down. -/
def apply (e : LifecycleEvent) (s : Session) : Session :=
  { s with thread := s.thread.apply e, past := (s.thread, e) :: s.past }

def checkIn (s : Session) : Session :=
  { s with slot := s.slot.checkIn }

end Session

end DisplaySurface
