import DisplaySurface.Buffer.Shape
import DisplaySurface.Crash
import DisplaySurface.Picture.Layer

/-!
Snapshots of composed frames: rows of four bytes per pixel without padding.
-/

namespace DisplaySurface

def colorAt? (bytes : Array UInt8) (offset : Nat) : Option Rgba :=
  match bytes[offset]?, bytes[offset + 1]?, bytes[offset + 2]?, bytes[offset + 3]? with
  | some r, some g, some b, some a => some ⟨r, g, b, a⟩
  | _, _, _, _ => none

structure Snapshot where
  fingerprint : Nat := 0
  width : UInt32 := 0
  height : UInt32 := 0
  bytes : Array UInt8 := #[]
  deriving DecidableEq, Repr

namespace Snapshot

def offset (s : Snapshot) (x y : UInt32) : Nat :=
  (y.toNat * s.width.toNat + x.toNat) * 4

/-- The colour at a point of the frame. Offsets are counted in words of 64 bits, and a count that
does not fit is a crash. -/
def pixel (s : Snapshot) (x y : UInt32) : Except Crash (Option Rgba) :=
  if s.width ≤ x ∨ s.height ≤ y then .ok none
  else if addressSpace ≤ s.offset x y then .error .multiplyOverflow
  else if addressSpace ≤ s.offset x y + 4 then .error .addOverflow
  else .ok (colorAt? s.bytes (s.offset x y))

def runs (s : Snapshot) : List (Nat × Rgba) :=
  let colors := (List.range (s.bytes.size / 4)).filterMap fun i => colorAt? s.bytes (4 * i)
  (colors.splitBy (· = ·)).filterMap fun run => run.head?.map (run.length, ·)

end Snapshot

end DisplaySurface
