import DisplaySurface.Machine.Basic

/-!
A session without a render thread. Whoever returns a buffer composes and presents the frame on the spot,
so a call has done all that it does when it returns. This is what a session with a thread is measured by,
when a single caller makes one call after the other.
-/

namespace DisplaySurface

inductive Call where
  | setState (wanted : Visibility)
  | acquire
  | fill (b : Checkout) (layers : List Layer)
  | release (b : Checkout)
  | reallocate (shape : BufferShape)
  | shutdown
  | failNext (n : Nat)

inductive Answer where
  | ended (ending : Ending)
  | lent (buffer : Except SessionError Checkout)
  | filled (b : Checkout)
  | replaced (buffer : Except SessionError LiveBuffer)

def Answer.ok : Answer := .ended (.returned (.ok ()))

/-- What can be seen of a session and its display when a call returns. -/
structure View where
  live : LiveBuffer
  busy : Bool
  requested : Visibility
  thread : Lifecycle
  fault : Option SessionError
  tally : Tally
  display : HeadlessDisplay

/-- A frame as the renderer gets it, its layers in drawing order. -/
abbrev Painting := LiveBuffer × List Layer

/-- Whether a frame can be composed, as it depends on the frames before it, the earliest first. -/
abbrev Paint := List Painting → Painting → Except String Unit

/-- `thread` is what such a session says of the thread that it has not. -/
structure Inline where
  id : UInt64
  slot : Slot
  display : HeadlessDisplay
  requested : Visibility := .notVisible
  thread : Lifecycle := .stopped
  tally : Tally := {}
  sequence : Nat := 0
  composed : List Painting := []

namespace Inline

variable (paint : Paint)

def view (s : Inline) : View where
  live := s.slot.live
  busy := s.slot.busy
  requested := s.requested
  thread := s.thread
  fault := none
  tally := s.tally
  display := s.display

def setState (wanted : Visibility) (s : Inline) : Outcome × Inline :=
  if wanted = .dead then (.error .deadRequested, s)
  else if s.requested = .dead then (.error .sessionDead, s)
  else
    (.ok (),
      { s with requested := wanted, thread := if wanted.isVisible then .running else s.thread })

def acquire (s : Inline) : Except SessionError Checkout × Inline :=
  if s.requested = .dead then (.error .sessionDead, s)
  else (s.slot.checkOut.1, { s with slot := s.slot.checkOut.2 })

/-- Composes the live buffer and presents it. The first frame that is shown makes the display visible. -/
def showFrame (layers : List Layer) (s : Inline) : Outcome × Inline :=
  let painting := (s.slot.live, Layer.inDrawingOrder layers)
  let composed := s.composed ++ [painting]
  match paint s.composed painting with
  | .error reason =>
    (.error (.composeFailed reason),
      { s with
        composed
        tally := { s.tally with composeFailures := s.tally.composeFailures + 1 } })
  | .ok () =>
    let sequence := s.sequence + 1
    match s.display.present s.id { buffer := s.slot.live, sequence } with
    | (.error e, display) =>
      (.error (.presentFailed e.message),
        { s with
          composed
          sequence
          display
          tally := { s.tally with presentFailures := s.tally.presentFailures + 1 } })
    | (.ok (), display) =>
      (.ok (),
        { s with
          composed
          sequence
          display
          requested := s.requested.promoted
          tally := { s.tally with presented := s.tally.presented + 1 } })

def release (b : Checkout) (s : Inline) : Outcome × Inline :=
  match s.slot.validate b with
  | .error e => (.error e, s)
  | .ok () =>
    let s := { s with slot := s.slot.checkIn }
    if s.requested = .dead then (.error .shutDown, s)
    else if s.requested.isVisible then s.showFrame paint b.layers
    else (.ok (), { s with tally := { s.tally with discarded := s.tally.discarded + 1 } })

def reallocate (shape : BufferShape) (s : Inline) : Except SessionError LiveBuffer × Inline :=
  if s.requested = .dead then (.error .sessionDead, s)
  else
    match shape.check with
    | .error e => (.error (.invalidState e.message), s)
    | .ok () => (.ok (s.slot.reallocate shape).live, { s with slot := s.slot.reallocate shape })

def shutdown (s : Inline) : Inline :=
  if s.requested = .dead then s
  else { s with requested := .dead, thread := .stopped, display := s.display.release s.id }

def step (s : Inline) : Call → Answer × Inline
  | .setState wanted => (.ended (.returned (s.setState wanted).1), (s.setState wanted).2)
  | .acquire => (.lent s.acquire.1, s.acquire.2)
  | .fill b layers => (.filled (b.add layers), s)
  | .release b => (.ended (.returned (s.release paint b).1), (s.release paint b).2)
  | .reallocate shape => (.replaced (s.reallocate shape).1, (s.reallocate shape).2)
  | .shutdown => (.ok, s.shutdown)
  | .failNext n => (.ok, { s with display := s.display.failNext n })

def after : Inline → List Call → Inline
  | s, [] => s
  | s, c :: cs => after (s.step paint c).2 cs

def answers : Inline → List Call → List (Answer × View)
  | _, [] => []
  | s, c :: cs => ((s.step paint c).1, (s.step paint c).2.view) :: answers (s.step paint c).2 cs

variable {paint} {s : Inline}

theorem after_concat (s : Inline) (cs : List Call) (c : Call) :
    s.after paint (cs ++ [c]) = ((s.after paint cs).step paint c).2 := by
  induction cs generalizing s with
  | nil => rfl
  | cons c' cs ih => exact ih (s.step paint c').2

theorem answers_concat (s : Inline) (cs : List Call) (c : Call) :
    s.answers paint (cs ++ [c]) = s.answers paint cs ++
      [(((s.after paint cs).step paint c).1, ((s.after paint cs).step paint c).2.view)] := by
  induction cs generalizing s with
  | nil => rfl
  | cons c' cs ih => exact congrArg (_ :: ·) (ih (s.step paint c').2)

section Shown

variable {b : Checkout} (valid : s.slot.validate b = .ok ()) (visible : s.requested.isVisible = true)

include valid visible

theorem release_of_visible :
    s.release paint b = { s with slot := s.slot.checkIn }.showFrame paint b.layers := by
  have alive := Visibility.ne_dead_of_isVisible visible
  simp [release, valid, visible, alive]

theorem release_of_unpainted {reason : String}
    (painted : paint s.composed (s.slot.live, Layer.inDrawingOrder b.layers) = .error reason) :
    s.release paint b = (.error (.composeFailed reason),
      { s with
        slot := s.slot.checkIn
        composed := s.composed ++ [(s.slot.live, Layer.inDrawingOrder b.layers)]
        tally := { s.tally with composeFailures := s.tally.composeFailures + 1 } }) := by
  simp [release_of_visible valid visible, showFrame, painted]

theorem release_of_unpresented {e : PresentError} {display : HeadlessDisplay}
    (painted : paint s.composed (s.slot.live, Layer.inDrawingOrder b.layers) = .ok ())
    (presented : s.display.present s.id ⟨s.slot.live, s.sequence + 1⟩ = (.error e, display)) :
    s.release paint b = (.error (.presentFailed e.message),
      { s with
        slot := s.slot.checkIn
        display
        sequence := s.sequence + 1
        composed := s.composed ++ [(s.slot.live, Layer.inDrawingOrder b.layers)]
        tally := { s.tally with presentFailures := s.tally.presentFailures + 1 } }) := by
  simp [release_of_visible valid visible, showFrame, painted, presented]

theorem release_of_presented {display : HeadlessDisplay}
    (painted : paint s.composed (s.slot.live, Layer.inDrawingOrder b.layers) = .ok ())
    (presented : s.display.present s.id ⟨s.slot.live, s.sequence + 1⟩ = (.ok (), display)) :
    s.release paint b = (.ok (),
      { s with
        slot := s.slot.checkIn
        display
        sequence := s.sequence + 1
        composed := s.composed ++ [(s.slot.live, Layer.inDrawingOrder b.layers)]
        requested := s.requested.promoted
        tally := { s.tally with presented := s.tally.presented + 1 } }) := by
  simp [release_of_visible valid visible, showFrame, painted, presented]

end Shown

end Inline

end DisplaySurface
