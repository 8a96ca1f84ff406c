import DisplaySurface.Session.Basic

/-!
The sections of the render thread: looking for a frame, publishing what became of it, recording a
fault, and leaving.
-/

namespace DisplaySurface

inductive Found where
  | nothing
  | stop
  /-- A frame, and what the display was requested to be when it was taken. -/
  | frame (f : Submission) (requested : Visibility)

inductive Rendered where
  | presented
  /-- The display went invisible between the release and the render. -/
  | discarded
  | failed (e : SessionError)
  deriving DecidableEq, Repr

def Rendered.outcome : Rendered → Outcome
  | .presented | .discarded => .ok ()
  | .failed e => .error e

def Tally.count (r : Rendered) (t : Tally) : Tally :=
  match r with
  | .presented => { t with presented := t.presented + 1 }
  | .discarded => { t with discarded := t.discarded + 1 }
  | .failed (.composeFailed _) => { t with composeFailures := t.composeFailures + 1 }
  | .failed (.presentFailed _) => { t with presentFailures := t.presentFailures + 1 }
  | .failed _ => t

namespace Session

def nextFrame (s : Session) : Found × Session :=
  if !s.thread.isRunning then (.stop, s)
  else
    match s.handoff.take with
    | (some frame, handoff) => (.frame frame s.requested, { s with handoff })
    | (none, _) => (.nothing, s)

theorem nextFrame_of_halted {s : Session} (h : s.thread ≠ .running) : s.nextFrame = (.stop, s) := by
  simp [nextFrame, (Lifecycle.isRunning_eq_false_iff _).mpr h]

theorem nextFrame_of_ready {s : Session} {frame : Submission} (h : s.thread = .running)
    (hr : s.handoff = .ready frame) :
    s.nextFrame = (.frame frame s.requested, { s with handoff := .rendering }) := by
  simp [nextFrame, h, hr, Lifecycle.isRunning, Handoff.take]

theorem nextFrame_of_not_ready {s : Session} (h : s.thread = .running)
    (hr : s.handoff.isReady = false) : s.nextFrame = (.nothing, s) := by
  cases hh : s.handoff <;> simp_all [nextFrame, Lifecycle.isRunning, Handoff.take,
    Handoff.isReady]

/-- Counts the frame, makes the display visible after the first that was presented, and publishes the
outcome to the caller that still wants it. -/
def finishFrame (r : Rendered) (s : Session) : Session :=
  { s with
    tally := s.tally.count r
    requested := if r = .presented then s.requested.promoted else s.requested
    handoff := (s.handoff.finish r.outcome).2 }

theorem finishFrame_handoff {s : Session} (rendering : s.handoff = .rendering) (r : Rendered) :
    (s.finishFrame r).handoff = .done r.outcome := by
  simp [finishFrame, rendering, Handoff.finish]

def recordFault (e : SessionError) (s : Session) : Session :=
  { s with fault := some e }

def exit (crashed : Bool) (s : Session) : Session :=
  let s := if crashed && s.fault.isNone then s.recordFault .renderThreadCrashed else s
  let s := if s.thread.isRunning then s.apply .stop else s
  { s.apply .exited with handoff := s.handoff.reset }

/-- What the thread's exit adds to the history. -/
def exitPast (s : Session) : List (Lifecycle × LifecycleEvent) :=
  match s.thread with
  | .running => [(.stopping, .exited), (.running, .stop)]
  | .stopping => [(.stopping, .exited)]
  | .stopped => [(.stopped, .exited)]

@[simp] theorem finishFrame_isDead (r : Rendered) (s : Session) :
    (s.finishFrame r).isDead = s.isDead := by
  unfold finishFrame isDead
  split <;> cases s.requested <;> rfl

theorem exit_eq (crashed : Bool) (s : Session) :
    s.exit crashed = { s with
      thread := .stopped
      past := s.exitPast ++ s.past
      handoff := .idle
      fault := if crashed && s.fault.isNone then some .renderThreadCrashed else s.fault } := by
  unfold exit recordFault apply exitPast
  cases h : s.thread <;> cases hc : crashed && s.fault.isNone <;>
    simp [h, Lifecycle.isRunning, Lifecycle.apply, Lifecycle.after?, Handoff.reset]

@[simp] theorem exit_thread (crashed : Bool) (s : Session) : (s.exit crashed).thread = .stopped := by
  rw [exit_eq]

@[simp] theorem exit_requested (crashed : Bool) (s : Session) :
    (s.exit crashed).requested = s.requested := by
  rw [exit_eq]

@[simp] theorem exit_isDead (crashed : Bool) (s : Session) : (s.exit crashed).isDead = s.isDead := by
  simp [isDead]

@[simp] theorem exit_handoff (crashed : Bool) (s : Session) : (s.exit crashed).handoff = .idle := rfl

@[simp] theorem exit_slot (crashed : Bool) (s : Session) : (s.exit crashed).slot = s.slot := by
  rw [exit_eq]

@[simp] theorem exit_hasRenderer (crashed : Bool) (s : Session) :
    (s.exit crashed).hasRenderer = s.hasRenderer := by
  rw [exit_eq]

theorem exit_fault (crashed : Bool) (s : Session) :
    (s.exit crashed).fault =
      if crashed && s.fault.isNone then some .renderThreadCrashed else s.fault := by
  rw [exit_eq]

end Session

end DisplaySurface
