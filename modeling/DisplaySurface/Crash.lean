import DisplaySurface.Text.Quoted

/-!
Crashes: faults of the running program itself, as opposed to errors that a call returns. A crash ends
the thread in which it happens.
-/

namespace DisplaySurface

inductive Crash where
  /-- More bytes were asked for than one allocation may have. -/
  | capacityOverflow
  | multiplyOverflow
  | addOverflow
  /-- Bytes up to `stop` were asked for out of a row of `length` bytes. -/
  | outOfRange (stop length : Nat)
  /-- A thread name holds a null character. -/
  | nullInThreadName (name : String)
  deriving DecidableEq, Repr

def byteList (name : String) : String :=
  "[" ++ ", ".intercalate (name.toUTF8.toList.map fun b => toString b.toNat) ++ "]"

def Crash.message : Crash → String
  | .capacityOverflow => "capacity overflow"
  | .multiplyOverflow => "attempt to multiply with overflow"
  | .addOverflow => "attempt to add with overflow"
  | .outOfRange stop length =>
    s!"range end index {stop} out of range for slice of length {length}"
  | .nullInThreadName name =>
    let at0 := (name.toUTF8.toList.takeWhile (· ≠ 0)).length
    s!"thread name may not contain interior null bytes: NulError({at0}, " ++ byteList name ++ ")"

end DisplaySurface
