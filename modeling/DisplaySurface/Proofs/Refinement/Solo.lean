import DisplaySurface.Proofs.Machine.Moves
import DisplaySurface.Proofs.Refinement.Inline

/-!
A session at work that is used by one caller, who makes a call when the last one has returned. Between
calls and during them the render thread goes on by itself, and threads wake up for no reason.
-/

namespace DisplaySurface

inductive Task where
  | idle
  | releasing (ticket : Nat)
  | closing
  deriving DecidableEq

/-- A session on a display of its own. `issued` are the calls that were made, the earliest first, and
`log` the answers with what was seen when they were given. -/
structure Solo (σ : Type) where
  machine : Machine σ
  display : HeadlessDisplay
  task : Task := .idle
  issued : List Call := []
  log : List (Answer × View) := []

inductive Act where
  | call (ticket : Nat) (c : Call)
  /-- Something goes on without the caller. -/
  | go (e : Event HeadlessDisplay)

namespace Event

variable {δ : Type}

def isStray : Event δ → Bool
  | strayWakeRender | strayWakeCaller _ => true
  | _ => false

def isProgress : Event δ → Bool
  | work | resume _ | join | relinquish => true
  | _ => false

end Event

namespace Call

variable {σ : Type}

/-- A thread can always be created for a session that is used so. -/
def event (ticket : Nat) (d : HeadlessDisplay) : Call → Event HeadlessDisplay
  | setState wanted => .setState wanted .started
  | acquire => .acquire
  | fill _ _ => .outside d
  | release b => .release ticket b
  | reallocate shape => .reallocate shape
  | shutdown => .shutdown
  | failNext n => .outside (d.failNext n)

/-- The answer, if the call returns with its first section whatever happens there. -/
def answer? (m : Machine σ) : Call → Option Answer
  | setState wanted => some (.ended (m.setState wanted .started).1)
  | acquire => some (.lent m.acquire.1)
  | fill b layers => some (.filled (b.add layers))
  | release _ => none
  | reallocate shape => some (.replaced (m.reallocate shape).1)
  | shutdown => if m.shared.isDead then some .ok else none
  | failNext _ => some .ok

def task (ticket : Nat) : Call → Task
  | release _ => .releasing ticket
  | shutdown => .closing
  | _ => .idle

end Call

def Task.answer? {σ : Type} (m : Machine σ) : Task → Option Answer
  | idle => none
  | releasing ticket => (m.returned.lookup ticket).map fun outcome => .ended (.returned outcome)
  | closing => if m.closing = .closed then some .ok else none

def Machine.view {σ : Type} (m : Machine σ) (d : HeadlessDisplay) : View where
  live := m.shared.slot.live
  busy := m.shared.slot.busy
  requested := m.shared.requested
  thread := m.shared.thread
  fault := m.shared.fault
  tally := m.shared.tally
  display := d

namespace Solo

variable {σ : Type}

def answered (answer : Option Answer) (s : Solo σ) : Solo σ :=
  match answer with
  | some a => { s with task := .idle, log := s.log ++ [(a, s.machine.view s.display)] }
  | none => s

theorem issued_answered (s : Solo σ) (answer : Option Answer) :
    (s.answered answer).issued = s.issued ∧ (s.answered answer).machine = s.machine := by
  cases answer <;> exact ⟨rfl, rfl⟩

def Enabled (s : Solo σ) : Act → Prop
  | .call ticket c => s.task = .idle ∧ s.machine.Enabled (c.event ticket s.display)
  | .go e => (e.isProgress || e.isStray) = true ∧ s.machine.Enabled e

instance (s : Solo σ) (act : Act) : Decidable (s.Enabled act) := by
  cases act <;> unfold Enabled <;> infer_instance

variable [Renderer σ]

def moved (s : Solo σ) (e : Event HeadlessDisplay) : Solo σ :=
  { s with machine := (s.machine.next s.display e).1, display := (s.machine.next s.display e).2 }

def next (s : Solo σ) : Act → Solo σ
  | .call ticket c =>
    let t := { s.moved (c.event ticket s.display) with
      task := c.task ticket, issued := s.issued ++ [c] }
    t.answered ((c.answer? s.machine).or (t.task.answer? t.machine))
  | .go e => (s.moved e).answered (s.task.answer? (s.moved e).machine)

def system (σ : Type) [Renderer σ] : System (Solo σ) Act where
  Enabled := Enabled
  next := next

instance (s : Solo σ) (act : Act) : Decidable ((system σ).Enabled s act) :=
  inferInstanceAs (Decidable (s.Enabled act))

def completed (s : Solo σ) : List Call :=
  if s.task = .idle then s.issued else s.issued.dropLast

end Solo

end DisplaySurface
