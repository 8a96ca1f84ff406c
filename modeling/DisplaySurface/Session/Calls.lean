import DisplaySurface.Buffer.Shape
import DisplaySurface.Crash
import DisplaySurface.Session.Basic

/-!
The sections of the calls that the users of a session make. Returning a buffer is two sections: one that
hands the frame over, and, once the wait is over, one that collects its outcome.
-/

namespace DisplaySurface

inductive Spawn where
  | started
  | refused (reason : String)
  | crashed (c : Crash)
  deriving DecidableEq, Repr

inductive Ending where
  | returned (outcome : Outcome)
  | crashed (c : Crash)

def Ending.isCrash : Ending → Bool
  | returned _ => false
  | crashed _ => true

inductive Release where
  | returned (outcome : Outcome)
  | waiting

namespace Session

def starts (wanted : Visibility) (s : Session) : Bool :=
  wanted.isVisible && s.thread = .stopped && s.fault.isNone

theorem starts_iff (wanted : Visibility) (s : Session) :
    s.starts wanted = true ↔ wanted.isVisible = true ∧ s.thread = .stopped ∧ s.fault = none := by
  simp [starts, and_assoc]

/-- Starts the render thread. It counts as running before it is created, so a crash in creating it
leaves the session with a running thread that does not exist. -/
def startThread (spawn : Spawn) (s : Session) : Ending × Session :=
  match s.thread.transition .start with
  | .error e => (.returned (.error e), s.apply .start)
  | .ok _ =>
    if !s.hasRenderer then (.returned (.error .rendererGone), s)
    else
      let s := { s.apply .start with hasRenderer := false }
      match spawn with
      | .started => (.returned (.ok ()), s)
      | .crashed c => (.crashed c, s)
      | .refused reason =>
        let e := SessionError.spawnFailed reason
        (.returned (.error e), { (s.apply .stop).apply .exited with fault := some e })

/-- Requests a visibility; a visible one starts the render thread if it never ran. -/
def setState (wanted : Visibility) (spawn : Spawn) (s : Session) : Ending × Session :=
  if wanted = .dead then (.returned (.error .deadRequested), s)
  else if s.isDead then (.returned (.error .sessionDead), s)
  else if s.starts wanted then
    match s.startThread spawn with
    | (.returned (.ok ()), s) => (.returned (.ok ()), { s with requested := wanted })
    | failed => failed
  else (.returned (.ok ()), { s with requested := wanted })

def acquire (s : Session) : Except SessionError Checkout × Session :=
  if s.isDead then (.error .sessionDead, s)
  else
    let (checkout, slot) := s.slot.checkOut
    (checkout, { s with slot })

/-- Takes a buffer back, and hands its frame over where a visible display has a running thread. -/
def release (c : Checkout) (s : Session) : Release × Session :=
  match s.slot.validate c with
  | .error e => (.returned (.error e), s)
  | .ok () =>
    if s.isDead then (.returned (.error .shutDown), s.checkIn)
    else if !s.requested.isVisible then
      (.returned (.ok ()),
        { s.checkIn with tally := { s.tally with discarded := s.tally.discarded + 1 } })
    else if !s.thread.isRunning then (.returned (.error .shutDown), s.checkIn)
    else
      match s.handoff.offer ⟨s.slot.live, c.layers⟩ with
      | (.error e, _) => (.returned (.error e), s.checkIn)
      | (.ok (), handoff) => (.waiting, { s with handoff })

section ReleaseCases

variable {c : Checkout} {s : Session}

theorem release_of_invalid {e : SessionError} (invalid : s.slot.validate c = .error e) :
    s.release c = (.returned (.error e), s) := by
  simp [release, invalid]

theorem release_of_off (valid : s.slot.validate c = .ok ())
    (off : s.isDead = true ∨ s.requested.isVisible = true ∧ s.thread ≠ .running) :
    s.release c = (.returned (.error .shutDown), s.checkIn) := by
  rcases off with dead | ⟨visible, halted⟩
  · simp [release, valid, dead]
  · simp [release, valid, visible, (Lifecycle.isRunning_eq_false_iff _).mpr halted]

theorem release_of_hidden (valid : s.slot.validate c = .ok ()) (alive : s.isDead = false)
    (hidden : s.requested.isVisible = false) : s.release c = (.returned (.ok ()),
      { s.checkIn with tally := { s.tally with discarded := s.tally.discarded + 1 } }) := by
  simp [release, valid, alive, hidden]

theorem release_of_occupied (valid : s.slot.validate c = .ok ()) (alive : s.isDead = false)
    (visible : s.requested.isVisible = true) (running : s.thread = .running)
    (occupied : s.handoff ≠ .idle) :
    s.release c = (.returned (.error .frameInFlight), s.checkIn) := by
  have refused : s.handoff.offer ⟨s.slot.live, c.layers⟩ = (.error .frameInFlight, s.handoff) := by
    cases h : s.handoff with
    | idle => exact absurd h occupied
    | ready | rendering | done => rfl
  simp [release, valid, alive, visible, running, Lifecycle.isRunning, refused]

theorem release_of_idle (valid : s.slot.validate c = .ok ()) (alive : s.isDead = false)
    (visible : s.requested.isVisible = true) (running : s.thread = .running)
    (idle : s.handoff = .idle) :
    s.release c = (.waiting, { s with handoff := .ready ⟨s.slot.live, c.layers⟩ }) := by
  simp [release, valid, alive, visible, running, idle, Lifecycle.isRunning, Handoff.offer]

end ReleaseCases

/-- Whether a caller whose frame was handed over has nothing to collect yet. -/
def mustWait (s : Session) : Bool :=
  !s.handoff.isDone && !s.isCancelled

theorem mustWait_eq_true_iff (s : Session) :
    s.mustWait = true ↔ s.handoff.isDone = false ∧ s.isDead = false ∧ s.thread = .running := by
  simp [mustWait, isCancelled, Lifecycle.isRunning_eq_true_iff]

theorem mustWait_eq_false_iff (s : Session) :
    s.mustWait = false ↔ s.handoff.isDone = true ∨ s.isDead = true ∨ s.thread ≠ .running := by
  cases done : s.handoff.isDone <;> cases dead : s.isDead <;>
    simp [mustWait, isCancelled, done, dead, Lifecycle.isRunning_eq_false_iff]

/-- Ends a release that waited: the outcome of the frame, or shut down where there is none. -/
def collect (s : Session) : Outcome × Session :=
  match s.handoff.collect with
  | (some outcome, handoff) => (outcome, { s with handoff }.checkIn)
  | (none, handoff) => (.error .shutDown, { s with handoff := handoff.withdraw }.checkIn)

theorem collect_of_done {s : Session} {outcome : Outcome} (h : s.handoff = .done outcome) :
    s.collect.1 = outcome := by
  simp [collect, Handoff.collect, h]

theorem collect_of_not_done {s : Session} (h : s.handoff.isDone = false) :
    s.collect.1 = .error .shutDown := by
  cases hh : s.handoff <;> simp_all [collect, Handoff.collect, Handoff.isDone]

theorem collect_snd (s : Session) :
    s.collect.2 = { s.checkIn with handoff := s.handoff.collect.2.withdraw } := by
  unfold collect
  cases s.handoff <;> rfl

@[simp] theorem collect_thread (s : Session) : s.collect.2.thread = s.thread := by
  rw [collect_snd]; rfl

@[simp] theorem collect_requested (s : Session) : s.collect.2.requested = s.requested := by
  rw [collect_snd]; rfl

@[simp] theorem collect_isDead (s : Session) : s.collect.2.isDead = s.isDead := by
  simp [isDead]

@[simp] theorem collect_fault (s : Session) : s.collect.2.fault = s.fault := by
  rw [collect_snd]; rfl

@[simp] theorem collect_hasRenderer (s : Session) : s.collect.2.hasRenderer = s.hasRenderer := by
  rw [collect_snd]; rfl

@[simp] theorem collect_past (s : Session) : s.collect.2.past = s.past := by
  rw [collect_snd]; rfl

@[simp] theorem collect_slot (s : Session) : s.collect.2.slot = s.slot.checkIn := by
  rw [collect_snd]; rfl

@[simp] theorem collect_handoff (s : Session) :
    s.collect.2.handoff = s.handoff.collect.2.withdraw := by
  rw [collect_snd]

def reallocate (shape : BufferShape) (s : Session) : Except SessionError LiveBuffer × Session :=
  if s.isDead then (.error .sessionDead, s)
  else if !s.handoff.isIdle then (.error .busy, s)
  else
    match shape.check with
    | .error e => (.error (.invalidState e.message), s)
    | .ok () =>
      let slot := s.slot.reallocate shape
      (.ok slot.live, { s with slot })

theorem reallocate_cases (shape : BufferShape) (s : Session) :
    (∃ e, s.reallocate shape = (.error e, s)) ∨
      s.reallocate shape =
        (.ok (s.slot.reallocate shape).live, { s with slot := s.slot.reallocate shape }) := by
  unfold reallocate
  split
  · exact .inl ⟨_, rfl⟩
  · split
    · exact .inl ⟨_, rfl⟩
    · split
      · exact .inl ⟨_, rfl⟩
      · exact .inr rfl

/-- The first section of a shutdown; there is none where the session is dead already. -/
def beginShutdown? (s : Session) : Option Session :=
  if s.isDead then none
  else
    let s := { s with requested := .dead }
    some (if s.thread.isRunning then s.apply .stop else s)

def inFlight (s : Session) : Bool :=
  !s.isDead && !s.handoff.isIdle

end Session

end DisplaySurface
