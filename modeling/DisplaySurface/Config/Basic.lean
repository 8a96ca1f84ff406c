import DisplaySurface.Interface
import DisplaySurface.Session.Calls
import DisplaySurface.Text.Quoted

/-!
What a session is configured with: the display it drives, the shape of its buffer and its render
thread. Every value has a default.
-/

namespace DisplaySurface

structure DisplaySection where
  displayId : UInt64 := 0
  name : String := "headless"
  width : UInt32 := 640
  height : UInt32 := 480
  vendorFlags : UInt32 := 0
  deriving DecidableEq, Repr

/-- `width` and `height` go before those of the display. -/
structure BufferSection where
  width : Option UInt32 := none
  height : Option UInt32 := none
  layers : UInt32 := 1
  format : PixelFormat := .rgba8888
  usage : Usage := Usage.cpuWriteOften.union Usage.gpuTexture
  deriving DecidableEq, Repr

/-- `stackSize` is in bytes. -/
structure RenderSection where
  threadName : String := "render"
  stackSize : Option UInt64 := none
  deriving DecidableEq, Repr

structure Config where
  display : DisplaySection := {}
  buffer : BufferSection := {}
  render : RenderSection := {}
  deriving DecidableEq, Repr

def DisplaySection.shown (s : DisplaySection) : String :=
  "DisplayConfig \x7b " ++ s!"display_id: {s.displayId}, name: " ++ Text.quoted s.name
    ++ s!", width_px: {s.width}, height_px: {s.height}, vendor_flags: {s.vendorFlags}" ++ " \x7d"

/-- The memory that there is, in bytes. Stacks of this size and more are not granted. -/
def RenderSection.stackLimit : Nat := 0x800000000

def RenderSection.stackGuard : Nat := 4096

def RenderSection.stackFault? (size : Nat) : Option String :=
  if addressSpace ≤ size + stackGuard then some "Invalid argument (os error 22)"
  else if stackLimit ≤ size then some "Resource temporarily unavailable (os error 11)"
  else none

/-- What comes of creating a thread with these settings. The name is looked at first. -/
def RenderSection.spawn (s : RenderSection) : Spawn :=
  if s.threadName.toList.contains '\x00' then .crashed (.nullInThreadName s.threadName)
  else
    match s.stackSize.bind fun n => stackFault? n.toNat with
    | some reason => .refused reason
    | none => .started

/-- Whether creating a thread with these settings can come to this. A name with a null character crashes
it, and nothing else does; whether a thread is granted is up to the system. -/
def RenderSection.allows (s : RenderSection) : Spawn → Bool
  | .crashed c => s.threadName.toList.contains '\x00' && c = .nullInThreadName s.threadName
  | .started | .refused _ => !s.threadName.toList.contains '\x00'

theorem RenderSection.allows_spawn (s : RenderSection) : s.allows s.spawn = true := by
  unfold spawn
  split
  · simp_all [allows]
  · split <;> simp_all [allows]

namespace Config

def displayInfo (c : Config) : DisplayInfo :=
  { id := c.display.displayId, name := c.display.name, width := c.display.width
    height := c.display.height, vendorFlags := c.display.vendorFlags }

/-- The buffer is as large as the display where its own section says nothing, has no padding, and at
least one layer. -/
def bufferShape (c : Config) : BufferShape :=
  let width := c.buffer.width.getD c.display.width
  { width
    height := c.buffer.height.getD c.display.height
    layers := max c.buffer.layers 1
    format := c.buffer.format
    usage := c.buffer.usage
    stride := width }

end Config

end DisplaySurface
