import DisplaySurface.Output.Headless
import DisplaySurface.Interface
import DisplaySurface.Session.Calls
import DisplaySurface.Session.Worker

/-!
A session at work: the state behind its lock, its render thread, and the calls that are blocked on it.
A step of the machine is one section under the lock, or one call that the render thread makes without
it. Threads wait by being parked; a notification unparks them, and an unparked thread looks again.
-/

namespace DisplaySurface

inductive RenderCall where
  | start (shape : BufferShape)
  | compose (buffer : LiveBuffer) (layers : List Layer)
  | present (frame : Frame)
  deriving DecidableEq, Repr

inductive Phase where
  | absent
  | created
  | starting (shape : BufferShape)
  | failing (e : SessionError)
  | seeking
  /-- Waiting for a notification that a frame is ready. -/
  | parked
  | composing (frame : Submission)
  | presenting (frame : Frame)
  | publishing (r : Rendered)
  /-- Out of the loop, by itself or by a crash. -/
  | leaving (crashed : Bool)
  | gone
  deriving DecidableEq

namespace Phase

def isOver : Phase → Bool
  | absent | gone => true
  | _ => false

def canWork : Phase → Bool
  | absent | parked | gone => false
  | _ => true

def notified : Phase → Phase
  | parked => seeking
  | p => p

@[simp] theorem isOver_notified (p : Phase) : p.notified.isOver = p.isOver := by
  cases p <;> rfl

@[simp] theorem notified_eq_absent (p : Phase) : p.notified = absent ↔ p = absent := by
  cases p <;> simp [notified]

@[simp] theorem notified_eq_gone (p : Phase) : p.notified = gone ↔ p = gone := by
  cases p <;> simp [notified]

@[simp] theorem notified_eq_leaving (p : Phase) (crashed : Bool) :
    p.notified = leaving crashed ↔ p = leaving crashed := by
  cases p <;> simp [notified]

@[simp] theorem notified_eq_publishing (p : Phase) (r : Rendered) :
    p.notified = publishing r ↔ p = publishing r := by
  cases p <;> simp [notified]

theorem notified_eq_or (p : Phase) : p.notified = p ∨ p = parked := by
  cases p <;> simp [notified]

theorem notified_ne_parked (p : Phase) : p.notified ≠ parked := by
  cases p <;> simp [notified]

end Phase

/-- A release that handed its frame over and has not returned. -/
structure Waiter where
  ticket : Nat
  parked : Bool := true
  deriving DecidableEq, Repr

inductive Closing where
  | notYet
  | joining
  | relinquishing
  | closed
  deriving DecidableEq, Repr

/-- The lock is poisoned once a call crashed that held it. `calls` and `returned` are histories, the
latest first: the render thread's calls, and the outcomes of releases under the tickets of their
callers. -/
structure Machine (σ : Type) where
  info : DisplayInfo
  resource : UInt64
  shared : Session
  renderer : σ
  phase : Phase := .absent
  sequence : Nat := 0
  waiters : List Waiter := []
  poisoned : Bool := false
  closing : Closing := .notYet
  calls : List RenderCall := []
  returned : List (Nat × Outcome) := []

inductive CreateError where
  | badShape (cause : ShapeError)
  | notAcquired (id : UInt64) (cause : AcquireError)
  deriving DecidableEq, Repr

def CreateError.causes : CreateError → List String
  | .badShape cause => ["Invalid target buffer configuration", cause.message]
  | .notAcquired id cause => [s!"Failed to acquire display {id}", cause.message]

def CreateError.message (e : CreateError) : String :=
  ": ".intercalate e.causes

namespace Machine

variable {σ δ : Type}

def fresh (info : DisplayInfo) (resource : UInt64) (shape : BufferShape) (renderer : σ) : Machine σ :=
  { info, resource, shared := Session.new shape, renderer }

def create (info : DisplayInfo) (shape : BufferShape) (renderer : σ) (d : HeadlessDisplay) :
    Except CreateError (Machine σ) × HeadlessDisplay :=
  match shape.check with
  | .error e => (.error (.badShape e), d)
  | .ok () =>
    match d.acquire info.id with
    | (.error e, d) => (.error (.notAcquired info.id e), d)
    | (.ok resource, d) => (.ok (fresh info resource shape renderer), d)

def wakeAll (m : Machine σ) : Machine σ :=
  { m with
    phase := m.phase.notified
    waiters := m.waiters.map fun w => { w with parked := false } }

def wakeCallers (m : Machine σ) : Machine σ :=
  { m with waiters := m.waiters.map fun w => { w with parked := false } }

/-- A render thread is created where the section left the session with one that it had not before. -/
def setState (wanted : Visibility) (spawn : Spawn) (m : Machine σ) : Ending × Machine σ :=
  let (ending, shared) := m.shared.setState wanted spawn
  let created := !m.shared.thread.isRunning && shared.thread.isRunning && spawn = .started
  (ending,
    { m with
      shared
      phase := if created then .created else m.phase
      poisoned := m.poisoned || ending.isCrash })

def acquire (m : Machine σ) : Except SessionError Checkout × Machine σ :=
  let (checkout, shared) := m.shared.acquire
  (checkout, { m with shared })

def reallocate (shape : BufferShape) (m : Machine σ) : Except SessionError LiveBuffer × Machine σ :=
  let (live, shared) := m.shared.reallocate shape
  (live, { m with shared })

/-- The first section of a release. A frame that is handed over wakes the render thread. -/
def release (ticket : Nat) (c : Checkout) (m : Machine σ) : Machine σ :=
  match m.shared.release c with
  | (.returned outcome, shared) => { m with shared, returned := (ticket, outcome) :: m.returned }
  | (.waiting, shared) =>
    { m with shared, phase := m.phase.notified, waiters := m.waiters ++ [{ ticket }] }

/-- A waiting release looks again: it parks, or collects its outcome and returns. On a poisoned lock it
does not look, but returns with its first wake-up. -/
def resume (ticket : Nat) (m : Machine σ) : Machine σ :=
  if m.shared.mustWait && !m.poisoned then
    { m with
      waiters := m.waiters.map fun w => if w.ticket = ticket then { w with parked := true } else w }
  else
    let (outcome, shared) := m.shared.collect
    { m with
      shared
      waiters := m.waiters.filter fun w => w.ticket ≠ ticket
      returned := (ticket, outcome) :: m.returned }

/-- The first section of a shutdown. Only the first shutdown has more to do. -/
def shutdown (m : Machine σ) : Machine σ :=
  match m.shared.beginShutdown? with
  | none => m
  | some shared => { { m with shared }.wakeAll with closing := .joining }

def work [Renderer σ] [Display δ] (m : Machine σ) (d : δ) : Machine σ × δ :=
  match m.phase with
  | .absent | .parked | .gone => (m, d)
  | .created =>
    let shape := m.shared.slot.live.shape
    ({ m with phase := .starting shape, calls := .start shape :: m.calls }, d)
  | .starting shape =>
    let (reply, renderer) := Renderer.start shape m.renderer
    let phase := match reply with
      | .done => .seeking
      | .failed reason => .failing (.startFailed reason)
      | .crashed => .leaving true
    ({ m with renderer, phase }, d)
  | .failing e => ({ m with shared := m.shared.recordFault e, phase := .leaving false }, d)
  | .seeking =>
    match m.shared.nextFrame with
    | (.nothing, shared) => ({ m with shared, phase := .parked }, d)
    | (.stop, shared) => ({ m with shared, phase := .leaving false }, d)
    | (.frame frame requested, shared) =>
      if requested.isVisible then
        let layers := Layer.inDrawingOrder frame.layers
        ({ m with
            shared
            phase := .composing { frame with layers }
            calls := .compose frame.buffer layers :: m.calls }, d)
      else ({ m with shared, phase := .publishing .discarded }, d)
  | .composing frame =>
    let (reply, renderer) := Renderer.compose frame.buffer frame.layers m.renderer
    match reply with
    | .done =>
      let sequence := m.sequence + 1
      ({ m with renderer, sequence, phase := .presenting { buffer := frame.buffer, sequence } }, d)
    | .failed reason =>
      ({ m with renderer, phase := .publishing (.failed (.composeFailed reason)) }, d)
    | .crashed => ({ m with renderer, phase := .leaving true }, d)
  | .presenting frame =>
    let (reply, d) := Display.present m.resource frame d
    let phase := match reply with
      | .done => .publishing .presented
      | .failed reason => .publishing (.failed (.presentFailed reason))
      | .crashed => .leaving true
    ({ m with phase, calls := .present frame :: m.calls }, d)
  | .publishing r =>
    ({ m with shared := m.shared.finishFrame r, phase := .seeking }.wakeCallers, d)
  | .leaving crashed => ({ m with shared := m.shared.exit crashed, phase := .gone }.wakeAll, d)

end Machine

end DisplaySurface
