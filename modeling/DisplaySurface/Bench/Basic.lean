import DisplaySurface.Bench.Rehearsal
import DisplaySurface.Config.Document
import DisplaySurface.Machine.Step
import DisplaySurface.Output.Command

/-!
A bench on which sessions are tried out. Sessions, displays and checked-out buffers have names. Calls
that may block are made by threads of their own. After every command the bench settles: all threads go
on until each is parked, held by its renderer's cue, or gone, so that no answer hangs on timing.
-/

namespace DisplaySurface

abbrev Named (α : Type) := List (String × α)

namespace Named

variable {α : Type}

def get? (names : Named α) (name : String) : Option α :=
  names.lookup name

def drop (names : Named α) (name : String) : Named α :=
  names.filter fun (n, _) => n ≠ name

def put (names : Named α) (name : String) (a : α) : Named α :=
  (name, a) :: names.drop name

end Named

structure PendingRelease where
  buffer : String
  ticket : Nat

/-- A session on the bench. It is abandoned once no name stands for it; it is then shut down as soon as
no call on it is left. -/
structure Station where
  display : String
  render : RenderSection
  machine : Machine Rehearsal
  abandoned : Bool := false
  releases : List PendingRelease := []
  /-- Whether a shutdown was left waiting and not joined. Those after the first have nothing to wait
  for. -/
  shutdownPending : Bool := false

/-- Stations keep their numbers; `sessions` says which number a name stands for. -/
structure Bench where
  displays : Named HeadlessDisplay := []
  stations : List Station := []
  sessions : Named Nat := []
  checkouts : Named Checkout := []
  nextTicket : Nat := 0

inductive SessionCommand where
  | info
  | record
  | status
  | setState (wanted : Visibility)
  | setStateMany (wanted : Visibility) (n : Nat)
  | acquire (buffer : String)
  | release (buffer : String) (layers : List Layer)
  | shutdown
  | join (buffer : String)
  | joinShutdown
  | openGate
  | reallocate (edit : BufferShape → BufferShape)
  | inFlight
  | frame
  | pixel (x y : UInt32)
  | log
  | frames (n : Nat) (layers : List Layer)
  /-- Some threads show frames without layers, each trying again while the buffer is out. -/
  | hammer (threads frames : Nat)
  | drop

inductive Bench.Command where
  | new (session display config : String) (rehearsal : Rehearsal)
  | on (session : String) (command : SessionCommand)
  | fill (buffer : String) (layers : List Layer)
  | dropBuffer (buffer : String)
  | display (name : String) (command : DisplayCommand)

inductive Bench.Answer where
  | badStep
  | done
  | pending
  | nothing
  | ending (e : Ending)
  | endings (es : List Ending)
  | created (info : DisplayInfo) (live : LiveBuffer)
  | badConfig (e : Config.ReadError)
  | notCreated (e : CreateError)
  | info (info : DisplayInfo)
  | live (result : Except SessionError LiveBuffer)
  | checkout (result : Except SessionError Checkout)
  | layers (layers : List Layer)
  | flag (b : Bool)
  | frame (snapshot : Option Snapshot)
  | pixel (result : Except Crash (Option Rgba))
  | log (calls : List RenderCall)
  | counts (counts : Named Nat)
  | display (answer : DisplayAnswer) (display : HeadlessDisplay)

end DisplaySurface
