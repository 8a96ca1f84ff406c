import DisplaySurface.Bench.Rehearsal
import DisplaySurface.Proofs.Machine.Passing

/-!
No wake-up is lost and nobody waits for ever. A thread that is parked has nothing to do yet; what a
caller waits for does not go away again before it looks; and while a caller is parked the render thread
is there and has a step to make.
-/

namespace DisplaySurface

/-- Creating a thread gives a thread or an error, but does not crash. -/
def Event.spawnReturns {δ : Type} : Event δ → Bool
  | .setState _ (.crashed _) => false
  | _ => true

theorem Session.over_of_dead {s : Session} (dead : s.isDead = true) : s.mustWait = false := by
  rw [mustWait_eq_false_iff]
  exact .inr (.inl dead)

theorem Session.over_of_exit (crashed : Bool) (s : Session) : (s.exit crashed).mustWait = false := by
  rw [mustWait_eq_false_iff]
  right
  right
  simp

namespace Machine

variable {σ δ : Type} {m : Machine σ}

theorem Passing.over_of_publish {r : Rendered} (h : Passing m) (here : m.phase = .publishing r) :
    (m.shared.finishFrame r).mustWait = false := by
  have rendering := h.drawing_rendering (by simp [here, Phase.isDrawing])
  rw [Session.mustWait_eq_false_iff, Session.finishFrame_handoff rendering]
  exact .inl rfl

theorem worker_of_mustWait (life : Lifetime m) (passing : Passing m) (clean : m.poisoned = false)
    (somebody : m.waiters ≠ []) (must : m.shared.mustWait = true) : m.phase.canWork = true := by
  obtain ⟨unfinished, alive, running⟩ := (Session.mustWait_eq_true_iff _).mp must
  have uncancelled := Session.isCancelled_eq_false alive running
  have occupied : m.shared.handoff ≠ .idle := by
    have cause := passing.waiting_cause somebody
    simpa [uncancelled] using cause
  cases here : m.phase with
  | absent => simp [life.absent_stopped here clean] at running
  | gone => simp [life.gone_stopped here] at running
  | parked =>
    have empty := passing.parked_empty here
    cases handoff : m.shared.handoff with
    | idle => exact absurd handoff occupied
    | ready frame => simp [handoff, Handoff.isReady] at empty
    | rendering => simpa [here, Phase.isDrawing] using passing.rendering_drawing handoff
    | done outcome => simp [handoff, Handoff.isDone] at unfinished
  | _ => rfl

variable [Renderer σ] [Display δ] {d : δ}

theorem step_keeps_clean {e : Event δ} {c : Machine σ × δ} (clean : m.poisoned = false)
    (returns : e.spawnReturns = true) (move : Move m d e c) : c.1.poisoned = false := by
  cases move with
  | startCrashed => cases returns
  | _ => exact clean

theorem reachable_clean {c₀ c : Machine σ × δ} (h₀ : c₀.1.poisoned = false)
    (h : ((system σ δ).only (·.spawnReturns = true)).Reachable c₀ c) : c.1.poisoned = false :=
  h.invariant (I := fun c => c.1.poisoned = false) h₀ fun c e _ hc he =>
    step_keeps_clean hc he.2 (next_move c.1 c.2 e he.1)

theorem step_keeps_over {e : Event δ} {c : Machine σ × δ} {ticket : Nat} (life : Lifetime m)
    (passing : Passing m) (waits : ticket ∈ m.waiting) (settled : m.shared.mustWait = false)
    (other : e ≠ .resume ticket) (move : Move m d e c) : c.1.shared.mustWait = false := by
  have somebody := somebody_of_mem_waiting waits
  cases move with
  | requestRefused | acquireRefused | acquire | rejected | releasedIdle | discarded | offerRefused
  | reallocateRefused | reallocate | shutdownAgain | join | relinquish | outside | begin | started
  | startFailed | startBroke | recordFault | park | stop | composed | composeFailed | composeBroke
  | presented | presentFailed | presentBroke | strayWakeRender => exact settled
  | request wanted spawn alive legal keeps =>
    have stays := Session.isDead_request alive legal
    rw [Session.mustWait_eq_false_iff] at settled ⊢
    simpa only [stays] using settled
  | start _ _ _ _ _ present | startRefused _ _ _ _ _ _ present
  | startCrashed _ _ _ _ _ _ present =>
    exact absurd (passing.nobody_of_renderer life present) somebody
  | handOver _ _ _ _ _ alive running _ idle =>
    exact absurd (passing.nobody_waits alive running idle) somebody
  | shutdownRunning | shutdownHalted =>
    exact Session.over_of_dead rfl
  | take frame here running ready | skip frame here running ready =>
    have alive := life.running_alive running
    rcases (Session.mustWait_eq_false_iff _).mp settled with done | dead | halted
    · simp [ready, Handoff.isDone] at done
    · simp [dead] at alive
    · exact absurd running halted
  | publish r here => exact passing.over_of_publish here
  | leave crashed => exact Session.over_of_exit crashed m.shared
  | waitOn _ _ must => simp [must] at settled
  | strayWakeCaller _ asleep => simp [passing.parked_must _ asleep] at settled
  | collect caller woken =>
    simp only [waiting, passing.waiting_eq woken, List.map_cons, List.map_nil,
      List.mem_singleton] at waits
    exact absurd (waits ▸ rfl) other

/-- What callers wait for does not go away again, whatever happens before they look. -/
theorem trace_keeps_over {c : Machine σ × δ} {ticket : Nat} {es : List (Event δ)}
    (life : Lifetime c.1) (passing : Passing c.1) (waits : ticket ∈ c.1.waiting)
    (settled : c.1.shared.mustWait = false) (valid : (system σ δ).Valid c es)
    (others : ∀ e ∈ es, e ≠ .resume ticket) :
    ((system σ δ).run c es).1.shared.mustWait = false := by
  induction es generalizing c with
  | nil => exact settled
  | cons e es ih =>
    have move := next_move c.1 c.2 e valid.1
    obtain ⟨other, others⟩ := List.forall_mem_cons.mp others
    exact ih (step_preserves_lifetime life move) (step_preserves_passing life passing move)
      (step_keeps_waiting waits other move) (step_keeps_over life passing waits settled other move)
      valid.2 others

/-- No wake-up is lost and nobody waits for ever, however the steps of all threads are ordered. A caller
that is parked has no outcome yet and was not cancelled, and the render thread is at work. A render
thread that is parked runs and has no frame. A wait that is over stays over, and while somebody waits
somebody can go on. -/
theorem wakeUps_reach_everybody (info : DisplayInfo) (resource : UInt64) (shape : BufferShape)
    (renderer : σ) (d : δ) {c : Machine σ × δ}
    (h : ((system σ δ).only (·.spawnReturns = true)).Reachable
      (Machine.fresh info resource shape renderer, d) c) :
    (∀ ticket, ⟨ticket, true⟩ ∈ c.1.waiters →
      c.1.shared.handoff.isDone = false ∧ c.1.shared.isCancelled = false ∧
        c.1.phase ∉ [.absent, .parked, .gone]) ∧
    (c.1.phase = .parked →
      c.1.shared.thread = .running ∧ c.1.shared.handoff.isReady = false) ∧
    (∀ ticket ∈ c.1.waiting, c.1.shared.mustWait = false → ∀ es, (system σ δ).Valid c es →
      (∀ e ∈ es, e ≠ .resume ticket) → ((system σ δ).run c es).1.shared.mustWait = false) ∧
    (c.1.waiters ≠ [] →
      c.1.Enabled (.work : Event δ) ∨ ∃ ticket, c.1.Enabled (.resume ticket : Event δ)) := by
  have life := reachable_lifetime (Lifetime.initial info resource shape renderer) h.of_only
  have passing := reachable_passing (Lifetime.initial info resource shape renderer)
    (Passing.initial info resource shape renderer) h.of_only
  have clean := reachable_clean rfl h
  have working : ∀ ticket, ⟨ticket, true⟩ ∈ c.1.waiters → c.1.phase.canWork = true :=
    fun ticket asleep => worker_of_mustWait life passing clean (List.ne_nil_of_mem asleep)
      (passing.parked_must ticket asleep)
  refine ⟨?_, ?_, ?_, ?_⟩
  · intro ticket asleep
    obtain ⟨unfinished, alive, running⟩ :=
      (Session.mustWait_eq_true_iff _).mp (passing.parked_must ticket asleep)
    have there := working ticket asleep
    refine ⟨unfinished, Session.isCancelled_eq_false alive running, ?_⟩
    intro absent
    simp only [List.mem_cons, List.not_mem_nil, or_false] at absent
    rcases absent with here | here | here <;> simp [here, Phase.canWork] at there
  · intro here
    exact ⟨passing.parked_running here, passing.parked_empty here⟩
  · intro ticket waits settled es valid others
    exact trace_keeps_over life passing waits settled valid others
  · intro somebody
    obtain ⟨w, waiting⟩ := List.exists_mem_of_ne_nil _ somebody
    cases asleep : w.parked with
    | true => exact .inl (working w.ticket (by simpa [← asleep] using waiting))
    | false =>
      refine .inr ⟨w.ticket, ?_⟩
      simp only [Enabled, hasWaiter, List.any_eq_true]
      exact ⟨w, waiting, by simp [asleep]⟩

/-- A caller has handed its frame over and is parked before the render thread made a step. -/
theorem wakeUps_reach_first_release :
    let c₀ : Machine Rehearsal × HeadlessDisplay :=
      (Machine.fresh ⟨1, "panel", 4, 2, 0⟩ 1 ⟨4, 2, 1, .rgba8888, .none, 4⟩ {}, {})
    let c := (system Rehearsal HeadlessDisplay).run c₀
      [.setState .visible .started, .acquire,
        .release 0 ⟨⟨4, 2, 1, .rgba8888, .none, 4⟩, 1, 1, []⟩]
    ⟨0, true⟩ ∈ c.1.waiters ∧ c.1.phase ∉ [.absent, .parked, .gone] := by
  intro c₀ c
  have reachable : ((system Rehearsal HeadlessDisplay).only (·.spawnReturns = true)).Reachable c₀ c :=
    ⟨[.setState .visible .started, .acquire,
      .release 0 ⟨⟨4, 2, 1, .rgba8888, .none, 4⟩, 1, 1, []⟩], by decide, rfl⟩
  have asleep : ⟨0, true⟩ ∈ c.1.waiters := by decide
  have all := wakeUps_reach_everybody _ _ _ _ _ reachable
  exact ⟨asleep, (all.1 0 asleep).2.2⟩

end Machine

end DisplaySurface
