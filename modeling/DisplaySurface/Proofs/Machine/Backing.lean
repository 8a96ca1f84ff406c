import DisplaySurface.Config.Basic
import DisplaySurface.Proofs.Machine.WakeUps

/-!
Whether a thread stands behind a session that is recorded as running. The record is made before the
thread is created, so all depends on what creating it can come to, and that on the thread's name.
-/

namespace DisplaySurface

def Event.fits {δ : Type} (s : RenderSection) : Event δ → Bool
  | .setState _ spawn => s.allows spawn
  | _ => true

def Event.isWork {δ : Type} : Event δ → Bool
  | .work => true
  | _ => false

/-- At most how many steps the thread makes until an outcome is published or it has left. -/
def Phase.left : Phase → Nat
  | absent | parked | gone => 0
  | publishing _ | leaving _ => 1
  | presenting _ | failing _ => 2
  | composing _ => 3
  | seeking => 4
  | starting _ => 5
  | created => 6

theorem Phase.left_le (p : Phase) : p.left ≤ 6 := by
  cases p <;> simp [left]

theorem Phase.left_pos {p : Phase} (h : p.canWork = true) : 0 < p.left := by
  cases p <;> simp_all [left, canWork]

namespace Machine

variable {σ δ : Type} [Renderer σ] [Display δ] {m : Machine σ} {d : δ}

/-- Every step of the render thread brings the end of a wait nearer, and no other step puts it off. -/
theorem step_nears_outcome {e : Event δ} {c : Machine σ × δ} {ticket : Nat} (life : Lifetime m)
    (passing : Passing m) (clean : m.poisoned = false) (waits : ticket ∈ m.waiting)
    (must : m.shared.mustWait = true) (other : e ≠ .resume ticket) (move : Move m d e c) :
    c.1.shared.mustWait = false ∨
      c.1.poisoned = false ∧ [e].countP (·.isWork) + c.1.phase.left ≤ m.phase.left := by
  have somebody := somebody_of_mem_waiting waits
  have working := worker_of_mustWait life passing clean somebody must
  have running := ((Session.mustWait_eq_true_iff _).mp must).2.2
  cases move with
  | start _ _ _ _ _ present | startRefused _ _ _ _ _ _ present
  | startCrashed _ _ _ _ _ _ present =>
    exact absurd (passing.nobody_of_renderer life present) somebody
  | handOver _ _ _ _ _ alive _ _ idle =>
    exact absurd (passing.nobody_waits alive running idle) somebody
  | shutdownRunning | shutdownHalted =>
    left
    exact Session.over_of_dead rfl
  | publish r here =>
    left
    exact passing.over_of_publish here
  | leave crashed here =>
    left
    exact Session.over_of_exit crashed m.shared
  | stop _ halted => exact absurd running halted
  | park here running none =>
    -- A parked thread could not be at work, as it is while somebody waits.
    have passing' := step_preserves_passing life passing (.park (d := d) here running none)
    have life' := step_preserves_lifetime life (.park (d := d) here running none)
    have working' := worker_of_mustWait life' passing' clean somebody must
    cases working'
  | strayWakeRender here =>
    rw [here] at working
    cases working
  | begin here | started _ _ here | startFailed _ _ _ here | startBroke _ _ here
  | recordFault _ here | take _ here | skip _ here | composed _ _ here | composeFailed _ _ _ here
  | composeBroke _ _ here | presented _ _ here | presentFailed _ _ _ here | presentBroke _ _ here =>
    right
    simp [here, clean, Event.isWork, Phase.left]
  | _ => exact .inr ⟨clean, by simp [Event.isWork]⟩

theorem trace_nears_outcome {c : Machine σ × δ} {ticket : Nat} {es : List (Event δ)}
    (life : Lifetime c.1) (passing : Passing c.1) (clean : c.1.poisoned = false)
    (waits : ticket ∈ c.1.waiting) (valid : (system σ δ).Valid c es)
    (others : ∀ e ∈ es, e ≠ .resume ticket) :
    ((system σ δ).run c es).1.shared.mustWait = false ∨
      ((system σ δ).run c es).1.phase.canWork = true ∧
        es.countP (·.isWork) + ((system σ δ).run c es).1.phase.left ≤ c.1.phase.left := by
  induction es generalizing c with
  | nil =>
    cases must : c.1.shared.mustWait with
    | false => exact .inl must
    | true =>
      have somebody := somebody_of_mem_waiting waits
      exact .inr ⟨worker_of_mustWait life passing clean somebody must, by simp⟩
  | cons e es ih =>
    cases must : c.1.shared.mustWait with
    | false => exact .inl (trace_keeps_over life passing waits must valid others)
    | true =>
      have move := next_move c.1 c.2 e valid.1
      obtain ⟨other, others⟩ := List.forall_mem_cons.mp others
      have life' := step_preserves_lifetime life move
      have passing' := step_preserves_passing life passing move
      have waits' := step_keeps_waiting waits other move
      rcases step_nears_outcome life passing clean waits must other move with settled | ⟨clean', nearer⟩
      · exact .inl (trace_keeps_over (c := (system σ δ).next c e) life' passing' waits' settled valid.2
          others)
      · rcases ih life' passing' clean' waits' valid.2 others with settled | ⟨working, left⟩
        · exact .inl settled
        · refine .inr ⟨working, ?_⟩
          have split : (e :: es).countP (·.isWork) = [e].countP (·.isWork) + es.countP (·.isWork) := by
            rw [← List.countP_append]
            rfl
          calc (e :: es).countP (·.isWork) + ((system σ δ).run c (e :: es)).1.phase.left
              = [e].countP (·.isWork) +
                  (es.countP (·.isWork) + ((system σ δ).run c (e :: es)).1.phase.left) := by
                rw [split, Nat.add_assoc]
            _ ≤ [e].countP (·.isWork) + ((system σ δ).next c e).1.phase.left :=
                Nat.add_le_add_left left _
            _ ≤ c.1.phase.left := nearer

/-- Without a null character in its name the thread is there whenever it is recorded as running, and
whoever waits for it gets an outcome or is cancelled after at most five of its steps, with or without a
shutdown. With one, neither can be relied on. -/
theorem running_backed_iff (s : RenderSection) (info : DisplayInfo) (resource : UInt64)
    (shape : BufferShape) (renderer : σ) (d : δ) :
    (∀ c, ((system σ δ).only (·.fits s = true)).Reachable
        (Machine.fresh info resource shape renderer, d) c →
      (c.1.shared.thread = .running → c.1.phase.isOver = false) ∧
      ∀ ticket ∈ c.1.waiting, ∀ es, (system σ δ).Valid c es → (∀ e ∈ es, e ≠ .resume ticket) →
        ((system σ δ).run c es).1.shared.mustWait = false ∨
          ((system σ δ).run c es).1.Enabled (.work : Event δ) ∧ es.countP (·.isWork) < 6) ↔
    '\x00' ∉ s.threadName.toList := by
  constructor
  · intro backed null
    let crash : Event δ := .setState .visible (.crashed (.nullInThreadName s.threadName))
    have crashed : ((system σ δ).only (·.fits s = true)).Reachable
        (Machine.fresh info resource shape renderer, d) _ :=
      .tail (.refl _ _) (e := crash) ⟨trivial, by simp [crash, Event.fits, RenderSection.allows, null]⟩
    have there : true = false := (backed _ crashed).1 rfl
    cases there
  · intro named c h
    have returns : ∀ e : Event δ, e.fits s = true → e.spawnReturns = true := by
      intro e fits
      cases e with
      | setState wanted spawn =>
        cases spawn with
        | crashed => simp [Event.fits, RenderSection.allows, named] at fits
        | started | refused => rfl
      | _ => rfl
    have life := reachable_lifetime (Lifetime.initial info resource shape renderer) h.of_only
    have passing := reachable_passing (Lifetime.initial info resource shape renderer)
      (Passing.initial info resource shape renderer) h.of_only
    have clean := reachable_clean rfl (h.only_mono returns)
    constructor
    · intro running
      cases here : c.1.phase with
      | absent => simp [life.absent_stopped here clean] at running
      | gone => simp [life.gone_stopped here] at running
      | _ => rfl
    · intro ticket waits es valid others
      rcases trace_nears_outcome life passing clean waits valid others with settled | ⟨working, left⟩
      · exact .inl settled
      · have soon := Phase.left_le c.1.phase
        have more := Phase.left_pos working
        exact .inr ⟨working, by omega⟩

/-- What is poisoned stays so, and there is no thread, then or later. -/
theorem absent_of_poisoned {c : Machine σ × δ} {es : List (Event δ)} (life : Lifetime c.1)
    (poisoned : c.1.poisoned = true) (valid : (system σ δ).Valid c es) :
    ((system σ δ).run c es).1.phase = .absent := by
  induction es generalizing c with
  | nil => exact life.poisoned_absent poisoned
  | cons e es ih =>
    have move := next_move c.1 c.2 e valid.1
    have poisoned' : ((system σ δ).next c e).1.poisoned = true := by
      change Move c.1 c.2 e ((system σ δ).next c e) at move
      generalize (system σ δ).next c e = c' at move
      cases move with
      | startCrashed => rfl
      | _ => exact poisoned
    exact ih (step_preserves_lifetime life move) poisoned' valid.2

/-- The name of the thread holds a null character. The session is recorded as running, a release waits,
and whatever happens then, there will be no thread to end the wait. -/
theorem crashed_start_strands_release :
    let s : RenderSection := { threadName := "a\x00b" }
    let crash : Spawn := .crashed (.nullInThreadName s.threadName)
    let shape : BufferShape := ⟨4, 2, 1, .rgba8888, .none, 4⟩
    let c₀ : Machine Rehearsal × HeadlessDisplay :=
      (Machine.fresh ⟨1, "panel", 4, 2, 0⟩ 1 shape {}, {})
    let es : List (Event HeadlessDisplay) :=
      [.setState .visible crash, .setState .visible crash, .acquire, .release 0 ⟨shape, 1, 1, []⟩]
    let c := (system Rehearsal HeadlessDisplay).run c₀ es
    ((system Rehearsal HeadlessDisplay).only (·.fits s = true)).Valid c₀ es ∧
      c.1.shared.thread = .running ∧ c.1.waiting = [0] ∧ c.1.shared.mustWait = true ∧
      ∀ fs, (system Rehearsal HeadlessDisplay).Valid c fs →
        ((system Rehearsal HeadlessDisplay).run c fs).1.phase = .absent := by
  intro s crash shape c₀ es c
  have valid : ((system Rehearsal HeadlessDisplay).only (·.fits s = true)).Valid c₀ es := by decide
  have reachable : (system Rehearsal HeadlessDisplay).Reachable c₀ c :=
    ⟨es, ((system _ _).valid_only _ c₀ es).mp valid |>.1, rfl⟩
  have life := reachable_lifetime (Lifetime.initial _ _ _ _) reachable
  refine ⟨valid, by decide, by decide, by decide, ?_⟩
  intro fs hfs
  exact absent_of_poisoned life (by decide) hfs

end Machine

end DisplaySurface
