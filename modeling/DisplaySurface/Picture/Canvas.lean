import DisplaySurface.Buffer.Slot
import DisplaySurface.Picture.Snapshot

/-!
The backing store of a buffer: rows of four-byte pixels, each row as long as the stride. Every access
goes through a check of its bounds, and an access outside the store is a crash.
-/

namespace DisplaySurface

@[inline] def putColor (bytes : Array UInt8) (offset : Nat) (c : Rgba) :
    Except Crash (Array UInt8) :=
  if h : offset + 4 ≤ bytes.size then
    .ok ((((bytes.set offset c.r (by omega)).set (offset + 1) c.g (by simp; omega)).set
      (offset + 2) c.b (by simp; omega)).set (offset + 3) c.a (by simp; omega))
  else .error (.outOfRange (offset + 4) bytes.size)

def putRun (c : Rgba) : (count : Nat) → (offset : Nat) → Array UInt8 → Except Crash (Array UInt8)
  | 0, _, bytes => .ok bytes
  | n + 1, offset, bytes =>
    match putColor bytes offset c with
    | .ok bytes => putRun c n (offset + 4) bytes
    | .error e => .error e

/-- Writes a run of `count` pixels in each of some rows, `pitch` bytes apart. -/
def putRows (c : Rgba) (count pitch : Nat) :
    (rows : Nat) → (offset : Nat) → Array UInt8 → Except Crash (Array UInt8)
  | 0, _, bytes => .ok bytes
  | n + 1, offset, bytes =>
    match putRun c count offset bytes with
    | .ok bytes => putRows c count pitch n (offset + pitch) bytes
    | .error e => .error e

/-- Appends the first `length` bytes of each of some rows, `pitch` bytes apart. -/
def packRows (bytes : Array UInt8) (length pitch : Nat) :
    (rows : Nat) → (start : Nat) → Array UInt8 → Except Crash (Array UInt8)
  | 0, _, packed => .ok packed
  | n + 1, start, packed =>
    if start + length ≤ bytes.size then
      packRows bytes length pitch n (start + pitch) (packed ++ bytes.extract start (start + length))
    else .error (.outOfRange (start + length) bytes.size)

structure Canvas where
  fingerprint : Nat
  shape : BufferShape
  bytes : Array UInt8

namespace Canvas

def largestStore : Nat := UInt64.size / 2 - 1

def fresh (target : LiveBuffer) : Except Crash Canvas :=
  if target.shape.size ≤ largestStore then
    .ok { fingerprint := target.fingerprint, shape := target.shape
          bytes := Array.replicate target.shape.size 0 }
  else .error .capacityOverflow

def pitch (c : Canvas) : Nat :=
  c.shape.stride.toNat * 4

def clear (color : Rgba) (c : Canvas) : Except Crash Canvas :=
  match putRun color (c.bytes.size / 4) 0 c.bytes with
  | .ok bytes => .ok { c with bytes }
  | .error e => .error e

def drawLayer (layer : Layer) (c : Canvas) : Except Crash Canvas :=
  let x := layer.area.x.toNat
  let y := layer.area.y.toNat
  match putRows layer.color (layer.area.right c.shape.width.toNat - x) c.pitch
      (layer.area.bottom c.shape.height.toNat - y) (y * c.pitch + x * 4) c.bytes with
  | .ok bytes => .ok { c with bytes }
  | .error e => .error e

def drawLayers : List Layer → Canvas → Except Crash Canvas
  | [], c => .ok c
  | layer :: rest, c =>
    match c.drawLayer layer with
    | .ok c => drawLayers rest c
    | .error e => .error e

def draw (color : Rgba) (layers : List Layer) (c : Canvas) : Except Crash Canvas :=
  match c.clear color with
  | .ok c => c.drawLayers layers
  | .error e => .error e

def snapshot (c : Canvas) : Except Crash Snapshot :=
  match packRows c.bytes (c.shape.width.toNat * 4) c.pitch c.shape.height.toNat 0
      (Array.mkEmpty (c.shape.width.toNat * c.shape.height.toNat * 4)) with
  | .ok bytes =>
    .ok { fingerprint := c.fingerprint, width := c.shape.width, height := c.shape.height, bytes }
  | .error e => .error e

end Canvas

end DisplaySurface
