import DisplaySurface.Interface

/-!
A display without a screen. It belongs to one owner at a time, accepts that owner's frames, and keeps
books: the latest frames, how many there were, how often another buffer had to be imported, and how
often it was acquired and released.
-/

namespace DisplaySurface

inductive AcquireError where
  | refused (id : UInt64)
  | taken (owner : UInt64)
  deriving DecidableEq, Repr

def AcquireError.message : AcquireError → String
  | .refused id => s!"display {id} is owned by another client"
  | .taken owner => s!"display {owner} is already acquired"

inductive PresentError where
  | notAcquired (resource : UInt64)
  | injected (sequence : Nat)
  deriving DecidableEq, Repr

def PresentError.message : PresentError → String
  | .notAcquired resource => s!"display resource ResourceHandle({resource}) is not acquired"
  | .injected sequence => s!"injected present failure for frame {sequence}"

/-- `recent` holds the latest frames, oldest first. -/
structure HeadlessDisplay where
  owner : Option UInt64 := none
  acquireCalls : Nat := 0
  releaseCalls : Nat := 0
  recent : List Frame := []
  presented : Nat := 0
  imported : Option Nat := none
  imports : Nat := 0
  failuresLeft : Nat := 0
  refusing : Bool := false
  deriving DecidableEq, Repr

namespace HeadlessDisplay

def historyLength : Nat := 32

def failNext (n : Nat) (d : HeadlessDisplay) : HeadlessDisplay :=
  { d with failuresLeft := n }

def refuse (d : HeadlessDisplay) : HeadlessDisplay :=
  { d with refusing := true }

def last? (d : HeadlessDisplay) : Option Frame :=
  d.recent.getLast?

/-- Grants the display. The resource granted has the number of the display. -/
def acquire (id : UInt64) (d : HeadlessDisplay) : Except AcquireError UInt64 × HeadlessDisplay :=
  let d := { d with acquireCalls := d.acquireCalls + 1 }
  if d.refusing then (.error (.refused id), d)
  else
    match d.owner with
    | some owner => (.error (.taken owner), d)
    | none => (.ok id, { d with owner := some id })

def record (frame : Frame) (d : HeadlessDisplay) : HeadlessDisplay :=
  let kept := if d.recent.length = historyLength then d.recent.drop 1 else d.recent
  { d with
    imported := some frame.buffer.fingerprint
    imports := if d.imported = some frame.buffer.fingerprint then d.imports else d.imports + 1
    recent := kept ++ [frame]
    presented := d.presented + 1 }

def present (resource : UInt64) (frame : Frame) (d : HeadlessDisplay) :
    Except PresentError Unit × HeadlessDisplay :=
  if d.owner ≠ some resource then (.error (.notAcquired resource), d)
  else if 0 < d.failuresLeft then
    (.error (.injected frame.sequence), { d with failuresLeft := d.failuresLeft - 1 })
  else (.ok (), d.record frame)

def presentTimes (resource : UInt64) (frame : Frame) :
    Nat → HeadlessDisplay → Except PresentError Unit × HeadlessDisplay
  | 0, d => (.ok (), d)
  | 1, d => d.present resource frame
  | n + 2, d =>
    presentTimes resource { frame with sequence := frame.sequence + 1 } (n + 1)
      (d.present resource frame).2

/-- Only the owner's release has an effect. -/
def release (id : UInt64) (d : HeadlessDisplay) : HeadlessDisplay :=
  let d := { d with releaseCalls := d.releaseCalls + 1 }
  if d.owner = some id then { d with owner := none, imported := none } else d

theorem present_ends (resource : UInt64) (frame : Frame) (d : HeadlessDisplay) :
    d.owner ≠ some resource ∧ d.present resource frame = (.error (.notAcquired resource), d) ∨
    d.owner = some resource ∧ 0 < d.failuresLeft ∧ d.present resource frame =
      (.error (.injected frame.sequence), { d with failuresLeft := d.failuresLeft - 1 }) ∨
    d.owner = some resource ∧ d.failuresLeft = 0 ∧
      d.present resource frame = (.ok (), d.record frame) := by
  by_cases owned : d.owner = some resource
  · by_cases failing : 0 < d.failuresLeft
    · exact .inr (.inl ⟨owned, failing, by simp [present, owned, failing]⟩)
    · exact .inr (.inr ⟨owned, by omega, by simp [present, owned, failing]⟩)
  · exact .inl ⟨owned, by simp [present, owned]⟩

theorem acquire_changes (id : UInt64) (d : HeadlessDisplay) : ∃ owner,
    (d.acquire id).2 = { d with owner, acquireCalls := d.acquireCalls + 1 } := by
  by_cases refusing : d.refusing = true
  · exact ⟨d.owner, by simp only [acquire, refusing, if_true]⟩
  · cases owner : d.owner with
    | none => exact ⟨some id, by simp only [acquire, refusing, owner]; rfl⟩
    | some other => exact ⟨some other, by simp only [acquire, refusing, owner]; rfl⟩

end HeadlessDisplay

instance : Display HeadlessDisplay where
  present resource frame d :=
    match d.present resource frame with
    | (.ok (), d) => (.done, d)
    | (.error e, d) => (.failed e.message, d)
  release := HeadlessDisplay.release

end DisplaySurface
