/-!
The errors that the calls of a session return.
-/

namespace DisplaySurface

inductive SessionError where
  | invalidState (reason : String)
  | busy
  | staleBuffer (returned live : Nat)
  | startFailed (reason : String)
  | shutDown
  | composeFailed (reason : String)
  | presentFailed (reason : String)
  | spawnFailed (reason : String)
  | renderThreadCrashed
  deriving DecidableEq, Repr

namespace SessionError

def message : SessionError → String
  | invalidState reason => "Invalid state: " ++ reason
  | busy => "Target buffer is already checked out"
  | staleBuffer returned live =>
    s!"Stale buffer: fingerprint {returned} does not match live buffer {live}"
  | startFailed reason => "Render context initialization failed: " ++ reason
  | shutDown => "Display session was shut down"
  | composeFailed reason => "Failed to compose frame: " ++ reason
  | presentFailed reason => "Failed to present frame: " ++ reason
  | spawnFailed reason => "Failed to spawn render thread: " ++ reason
  | renderThreadCrashed => "Render thread panicked"

def kind : SessionError → String
  | invalidState _ => "InvalidState"
  | busy => "Busy"
  | staleBuffer _ _ => "StaleBuffer"
  | startFailed _ => "ContextInitFailed"
  | shutDown => "Shutdown"
  | composeFailed _ => "ComposeFailed"
  | presentFailed _ => "PresentFailed"
  | spawnFailed _ => "Spawn"
  | renderThreadCrashed => "RenderThreadPanicked"

/-- Whether only a single frame was lost. -/
def isPerFrame : SessionError → Bool
  | composeFailed _ | presentFailed _ => true
  | _ => false

def notCheckedOut : SessionError := invalidState "target buffer is not checked out"
def frameInFlight : SessionError := invalidState "a frame is already in flight"
def deadRequested : SessionError :=
  invalidState "Dead can only be entered through a forced shutdown"
def sessionDead : SessionError := invalidState "display session was shut down"
def rendererGone : SessionError := invalidState "renderer already consumed"

end SessionError

end DisplaySurface
