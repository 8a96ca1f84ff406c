import DisplaySurface.Machine.Basic
import DisplaySurface.System

/-!
Runs of a session at work. Any caller and the render thread may make the next step, in any order, so a
run is any valid trace of events. `settle` is one such run: the threads that are not parked go on until
every one of them is parked, gone, or held up outside the session.
-/

namespace DisplaySurface

inductive Event (δ : Type) where
  | setState (wanted : Visibility) (spawn : Spawn)
  | acquire
  | release (ticket : Nat) (c : Checkout)
  | reallocate (shape : BufferShape)
  | shutdown
  | work
  /-- A woken caller looks whether its frame is done. -/
  | resume (ticket : Nat)
  /-- The caller of the first shutdown has joined the render thread. -/
  | join
  | relinquish
  | strayWakeRender
  | strayWakeCaller (ticket : Nat)
  /-- Others have used the display. -/
  | outside (d : δ)

namespace Machine

variable {σ δ : Type}

def hasWaiter (ticket : Nat) (parked : Bool) (m : Machine σ) : Bool :=
  m.waiters.any fun w => w.ticket = ticket && w.parked = parked

/-- What a thread can do next. Calls can always be made, releases under tickets that are new, and who is
parked can wake up for no reason. -/
def Enabled (m : Machine σ) : Event δ → Prop
  | .setState _ _ | .acquire | .reallocate _ | .shutdown | .outside _ => True
  | .release ticket _ => m.waiters.all (·.ticket ≠ ticket) ∧ m.returned.all (·.1 ≠ ticket)
  | .work => m.phase.canWork = true
  | .resume ticket => m.hasWaiter ticket false = true
  | .join => m.closing = .joining ∧ m.phase.isOver = true
  | .relinquish => m.closing = .relinquishing
  | .strayWakeRender => m.phase = .parked
  | .strayWakeCaller ticket => m.hasWaiter ticket true = true

instance (m : Machine σ) (e : Event δ) : Decidable (m.Enabled e) := by
  cases e <;> unfold Enabled <;> infer_instance

theorem unused_of_enabled {m : Machine σ} {ticket : Nat} {c : Checkout}
    (h : m.Enabled (.release ticket c : Event δ)) :
    ticket ∉ m.waiters.map (·.ticket) ∧ ticket ∉ m.returned.map (·.1) := by
  simp only [Enabled, List.all_eq_true, decide_eq_true_eq] at h
  constructor
  · rw [List.mem_map]
    rintro ⟨w, hw, he⟩
    exact h.1 w hw he
  · rw [List.mem_map]
    rintro ⟨r, hr, he⟩
    exact h.2 r hr he

theorem mem_waiters_of_hasWaiter {m : Machine σ} {ticket : Nat} {parked : Bool}
    (h : m.hasWaiter ticket parked = true) : ⟨ticket, parked⟩ ∈ m.waiters := by
  simp only [hasWaiter, List.any_eq_true, Bool.and_eq_true, decide_eq_true_eq] at h
  obtain ⟨w, hw, rfl, rfl⟩ := h
  exact hw

def next [Renderer σ] [Display δ] (m : Machine σ) (d : δ) : Event δ → Machine σ × δ
  | .setState wanted spawn => ((m.setState wanted spawn).2, d)
  | .acquire => (m.acquire.2, d)
  | .release ticket c => (m.release ticket c, d)
  | .reallocate shape => ((m.reallocate shape).2, d)
  | .shutdown => (m.shutdown, d)
  | .work => m.work d
  | .resume ticket => (m.resume ticket, d)
  | .join => ({ m with closing := .relinquishing }, d)
  | .relinquish => ({ m with closing := .closed }, Display.release m.info.id d)
  | .strayWakeRender => ({ m with phase := m.phase.notified }, d)
  | .strayWakeCaller ticket =>
    ({ m with
        waiters := m.waiters.map fun w =>
          if w.ticket = ticket then { w with parked := false } else w }, d)
  | .outside d => (m, d)

def system (σ δ : Type) [Renderer σ] [Display δ] : System (Machine σ × δ) (Event δ) where
  Enabled c e := c.1.Enabled e
  next c e := c.1.next c.2 e

instance [Renderer σ] [Display δ] (c : Machine σ × δ) (e : Event δ) :
    Decidable ((system σ δ).Enabled c e) :=
  inferInstanceAs (Decidable (c.1.Enabled e))

/-- The event of a thread that can go on by itself: the render thread unless it is held, then a woken
caller, then a shutdown. -/
def due? (held : Machine σ → Bool) (m : Machine σ) : Option (Event δ) :=
  if m.phase.canWork && !held m then some .work
  else
    match m.waiters.find? (!·.parked) with
    | some w => some (.resume w.ticket)
    | none =>
      match m.closing with
      | .joining => if m.phase.isOver then some .join else none
      | .relinquishing => some .relinquish
      | .notYet | .closed => none

theorem enabled_of_due? {held : Machine σ → Bool} {m : Machine σ} {e : Event δ}
    (h : m.due? held = some e) : m.Enabled e := by
  unfold due? at h
  split at h
  · cases h
    simp_all [Enabled]
  · split at h
    · rename_i w hw
      cases h
      have := List.find?_some hw
      have mem := List.mem_of_find?_eq_some hw
      simp only [Enabled, hasWaiter, List.any_eq_true]
      exact ⟨w, mem, by simp_all⟩
    · split at h
      · split at h
        · cases h
          simp_all [Enabled]
        · cases h
      · cases h
        simp_all [Enabled]
      · cases h
      · cases h

def goOn [Renderer σ] [Display δ] (held : Machine σ → Bool) : Nat → Machine σ × δ → Machine σ × δ
  | 0, c => c
  | n + 1, (m, d) =>
    match m.due? held with
    | none => (m, d)
    | some e => goOn held n (m.next d e)

/-- Enough steps for the render thread to start, show one frame and leave, for every caller to park or
return after it, and for a shutdown to end. -/
def enough (m : Machine σ) : Nat :=
  16 + 4 * m.waiters.length

def settle [Renderer σ] [Display δ] (held : Machine σ → Bool) (c : Machine σ × δ) : Machine σ × δ :=
  goOn held c.1.enough c

theorem reachable_goOn [Renderer σ] [Display δ] (held : Machine σ → Bool) (n : Nat)
    (c : Machine σ × δ) : (system σ δ).Reachable c (goOn held n c) := by
  suffices ∀ n c₀ c, (system σ δ).Reachable c₀ c → (system σ δ).Reachable c₀ (goOn held n c) from
    this n c c (.refl _ c)
  intro n
  induction n with
  | zero => exact fun _ _ h => h
  | succ n ih =>
    intro c₀ ⟨m, d⟩ h
    unfold goOn
    split
    · exact h
    · rename_i e he
      exact ih c₀ _ (h.tail (enabled_of_due? he))

end Machine

end DisplaySurface
