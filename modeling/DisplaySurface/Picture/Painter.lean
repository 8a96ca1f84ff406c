import DisplaySurface.Picture.Canvas
import DisplaySurface.Interface

/-!
A renderer that draws solid rectangles into a store of its own. The store belongs to a fingerprint: a
buffer with another fingerprint gets a new one.
-/

namespace DisplaySurface

inductive PaintError where
  | notStarted
  | unsupported (format : PixelFormat)
  | unaddressable (cause : ShapeError)
  deriving DecidableEq, Repr

def PaintError.message : PaintError → String
  | .notStarted => "compose_into called before initialize_context"
  | .unsupported format => "SoftwareRenderer only draws 32-bit RGBA, got " ++ format.name
  | .unaddressable cause => "SoftwareRenderer cannot address buffer: " ++ cause.message

inductive Painted where
  | done
  | refused (e : PaintError)
  | crashed (c : Crash)
  deriving DecidableEq, Repr

def Painted.reply : Painted → Reply
  | .done => .done
  | .refused e => .failed e.message
  | .crashed _ => .crashed

structure Painter where
  clearColor : Rgba
  started : Bool := false
  canvas : Option Canvas := none
  lastFrame : Snapshot := {}

namespace Painter

def start (shape : BufferShape) (p : Painter) : Painted × Painter :=
  if shape.format.isRgba then (.done, { p with started := true })
  else (.refused (.unsupported shape.format), p)

def canvasFor (target : LiveBuffer) (p : Painter) : Except Crash Canvas :=
  match p.canvas with
  | some c => if c.fingerprint = target.fingerprint then .ok c else Canvas.fresh target
  | none => Canvas.fresh target

def accepts (target : LiveBuffer) (p : Painter) : Except PaintError Unit :=
  if !p.started then .error .notStarted
  else if !target.shape.format.isRgba then .error (.unsupported target.shape.format)
  else
    match target.shape.check with
    | .ok () => .ok ()
    | .error e => .error (.unaddressable e)

/-- Draws the layers in the order given. A crash in making the store loses the one kept so far. -/
def compose (target : LiveBuffer) (layers : List Layer) (p : Painter) : Painted × Painter :=
  match p.accepts target with
  | .error e => (.refused e, p)
  | .ok () =>
    match p.canvasFor target with
    | .error e => (.crashed e, { p with canvas := none })
    | .ok canvas =>
      match canvas.draw p.clearColor layers with
      | .error e => (.crashed e, { p with canvas := some canvas })
      | .ok drawn =>
        match drawn.snapshot with
        | .error e => (.crashed e, { p with canvas := some drawn })
        | .ok frame => (.done, { p with canvas := some drawn, lastFrame := frame })

end Painter

instance : Renderer Painter where
  start shape p := ((p.start shape).1.reply, (p.start shape).2)
  compose target layers p :=
    let (painted, p) := p.compose target layers
    (painted.reply, p)

end DisplaySurface
