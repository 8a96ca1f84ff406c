import DisplaySurface.Output.Headless

/-!
The calls that a headless display understands, and their answers, as data.
-/

namespace DisplaySurface

inductive DisplayCommand where
  | acquire (id : UInt64)
  | release (id : UInt64)
  | present (resource : UInt64) (frame : Frame) (times : Nat)
  | failNext (n : Nat)
  | refuse
  | recent
  | last
  | status

inductive DisplayAnswer where
  | done
  | granted (resource : UInt64)
  | notGranted (e : AcquireError)
  | notPresented (e : PresentError)
  | frames (frames : List Frame)
  | frame (frame : Option Frame)

def HeadlessDisplay.answer (d : HeadlessDisplay) :
    DisplayCommand → DisplayAnswer × HeadlessDisplay
  | .acquire id =>
    match d.acquire id with
    | (.ok resource, d) => (.granted resource, d)
    | (.error e, d) => (.notGranted e, d)
  | .release id => (.done, d.release id)
  | .present resource frame times =>
    match d.presentTimes resource frame times with
    | (.ok (), d) => (.done, d)
    | (.error e, d) => (.notPresented e, d)
  | .failNext n => (.done, d.failNext n)
  | .refuse => (.done, d.refuse)
  | .recent => (.frames d.recent, d)
  | .last => (.frame d.last?, d)
  | .status => (.done, d)

end DisplaySurface
