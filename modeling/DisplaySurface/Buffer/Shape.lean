import DisplaySurface.Buffer.Usage

/-!
The shape of a buffer: its pixels, how they are laid out in rows, and how many bytes that takes.
-/

namespace DisplaySurface

inductive PixelFormat where
  | rgba8888
  | rgbx8888
  | bgra8888
  | rgb565
  deriving DecidableEq, Repr

namespace PixelFormat

def bytesPerPixel : PixelFormat → Nat
  | rgba8888 | rgbx8888 | bgra8888 => 4
  | rgb565 => 2

def name : PixelFormat → String
  | rgba8888 => "Rgba8888"
  | rgbx8888 => "Rgbx8888"
  | bgra8888 => "Bgra8888"
  | rgb565 => "Rgb565"

def all : List PixelFormat := [rgba8888, rgbx8888, bgra8888, rgb565]

def ofName? (name : String) : Option PixelFormat :=
  all.find? (·.name = name)

/-- Whether a pixel is four bytes in the order red, green, blue, alpha (or unused). -/
def isRgba : PixelFormat → Bool
  | rgba8888 | rgbx8888 => true
  | bgra8888 | rgb565 => false

theorem ofName?_name (f : PixelFormat) : ofName? f.name = some f := by
  cases f <;> decide

end PixelFormat

/-- Sizes are counted in words of 64 bits. -/
def addressSpace : Nat := UInt64.size

/-- `stride` is the distance between the starts of two rows, in pixels. -/
structure BufferShape where
  width : UInt32
  height : UInt32
  layers : UInt32
  format : PixelFormat
  usage : Usage
  stride : UInt32
  deriving DecidableEq, Repr

inductive ShapeError where
  | narrowStride (stride width : UInt32)
  | tooLarge (width height stride : UInt32)
  deriving DecidableEq, Repr

def ShapeError.message : ShapeError → String
  | .narrowStride stride width => s!"stride {stride} is narrower than width {width}"
  | .tooLarge width height stride => s!"{width}x{height} buffer with stride {stride} is too large"

namespace BufferShape

def size (s : BufferShape) : Nat :=
  s.stride.toNat * s.height.toNat * s.format.bytesPerPixel

def byteLength? (s : BufferShape) : Option Nat :=
  if s.size < addressSpace then some s.size else none

/-- Refuses shapes whose rows overlap or whose size cannot be counted. -/
def check (s : BufferShape) : Except ShapeError Unit :=
  if s.stride < s.width then .error (.narrowStride s.stride s.width)
  else if s.byteLength?.isNone then .error (.tooLarge s.width s.height s.stride)
  else .ok ()

theorem check_eq_ok_iff (s : BufferShape) :
    s.check = .ok () ↔ s.width ≤ s.stride ∧ s.size < addressSpace := by
  unfold check byteLength?
  split <;> rename_i h
  · simp [UInt32.not_le.mpr h]
  · split <;> simp_all [UInt32.not_lt]

end BufferShape

end DisplaySurface
