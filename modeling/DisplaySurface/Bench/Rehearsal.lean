import DisplaySurface.Machine.Basic
import DisplaySurface.Picture.Painter

/-!
A renderer that plays cues. Each call may be held up, crash or fail; a call whose cue does none of this
goes on to a painter, if there is one.
-/

namespace DisplaySurface

/-- What happens in one call. `failure` holds the causes of a failure, outermost first. -/
structure Cue where
  hold : Bool := false
  crash : Bool := false
  failure : List String := []
  deriving DecidableEq, Repr

def Cue.reply? (c : Cue) : Option Reply :=
  if c.crash then some .crashed
  else if c.failure.isEmpty then none
  else some (.failed (": ".intercalate c.failure))

structure Rehearsal where
  startCue : Cue := {}
  composeCues : List Cue := []
  painter : Option Painter := none

namespace Rehearsal

def cue (r : Rehearsal) : Phase → Cue
  | .starting _ => r.startCue
  | .composing _ => r.composeCues.headD {}
  | _ => {}

def openGate (r : Rehearsal) (p : Phase) : Rehearsal :=
  match p, r.composeCues with
  | .starting _, _ => { r with startCue := { r.startCue with hold := false } }
  | .composing _, c :: rest => { r with composeCues := { c with hold := false } :: rest }
  | _, _ => r

def play (c : Cue) (paint : Painter → Painted × Painter) (r : Rehearsal) : Reply × Rehearsal :=
  match c.reply?, r.painter with
  | some reply, _ => (reply, r)
  | none, none => (.done, r)
  | none, some p => ((paint p).1.reply, { r with painter := some (paint p).2 })

instance : Renderer Rehearsal where
  start shape r := r.play r.startCue (·.start shape)
  compose target layers r :=
    { r with composeCues := r.composeCues.tail }.play (r.composeCues.headD {})
      (·.compose target layers)

end Rehearsal

def Machine.isHeld (m : Machine Rehearsal) : Bool :=
  (m.renderer.cue m.phase).hold

end DisplaySurface
