import DisplaySurface.Buffer.Slot

/-!
What a session needs of the renderer and of the display that it was given. A renderer is set up once and
composes lists of layers into the target buffer; a display presents frames, and is given back. How they
keep their state, and what a display does with the frames, is their own affair.
-/

namespace DisplaySurface

/-- How a call of a renderer ended. A crash ends the thread that made the call. -/
inductive Reply where
  | done
  | failed (reason : String)
  | crashed
  deriving DecidableEq, Repr

class Renderer (σ : Type) where
  start : BufferShape → σ → Reply × σ
  compose : LiveBuffer → List Layer → σ → Reply × σ

structure DisplayInfo where
  id : UInt64
  name : String
  width : UInt32
  height : UInt32
  vendorFlags : UInt32
  deriving DecidableEq, Repr

/-- A composed frame. `sequence` counts the frames that were composed, starting at one. -/
structure Frame where
  buffer : LiveBuffer
  sequence : Nat
  deriving DecidableEq, Repr

class Display (δ : Type) where
  /-- Presents a frame on a resource that was granted. -/
  present : UInt64 → Frame → δ → Reply × δ
  /-- Gives the display of this number back. -/
  release : UInt64 → δ → δ

end DisplaySurface
