import DisplaySurface.Proofs.Machine.Recorder
import DisplaySurface.Proofs.Machine.WakeUps

/-!
The end of a session. A shutdown takes effect once and cannot be undone. It gives the display back when
the render thread has left, and from then on nothing changes any more but that the releases which are
still waiting return.
-/

namespace DisplaySurface

theorem Session.collect_of_idle {s : Session} (idle : s.handoff = .idle) :
    s.collect = (.error .shutDown, s.checkIn) := by
  cases s
  obtain rfl := idle
  rfl

namespace Machine

variable {σ δ : Type}

/-- The session was shut down, and if it ever had a render thread, that has left. -/
structure Over (m : Machine σ) : Prop where
  dead : m.shared.isDead = true
  stopped : m.shared.thread = .stopped
  idle : m.shared.handoff = .idle
  left : m.phase.isOver = true

/-- Of one session at two times: all is as it was, but that buffers may have been checked in and that
releases may have returned, none of them successfully. -/
def Rests (m m' : Machine σ) : Prop :=
  ∃ busy waiters closing new,
    m' = { m with
      shared := { m.shared with slot := { m.shared.slot with busy } }
      waiters
      closing
      returned := new ++ m.returned } ∧
    ∀ r ∈ new, ∃ e, r.2 = .error e

structure Refusing (m : Machine σ) : Prop where
  setState : ∀ wanted spawn, ∃ reason,
    m.setState wanted spawn = (.returned (.error (.invalidState reason)), m)
  acquire : m.acquire = (.error .sessionDead, m)
  reallocate : ∀ shape, m.reallocate shape = (.error .sessionDead, m)
  shutdown : m.shutdown = m

theorem Winding.ended {m : Machine σ} (h : Winding m) (life : Lifetime m) (passing : Passing m)
    (clean : m.poisoned = false) (given : m.closing = .relinquishing ∨ m.closing = .closed) :
    Over m := by
  have left := h.left given
  have stopped : m.shared.thread = .stopped := by
    cases here : m.phase with
    | absent => exact life.absent_stopped here clean
    | gone => exact life.gone_stopped here
    | _ => simp [here, Phase.isOver] at left
  refine ⟨h.dead_iff.mpr ?_, stopped, passing.stopped_idle stopped, left⟩
  rcases given with stage | stage <;> simp [stage]

/-- A shutdown that waits for the render thread waits for one that is on its way out. -/
theorem Winding.goes_on {m : Machine σ} (h : Winding m) (life : Lifetime m) (passing : Passing m)
    (joining : m.closing = .joining) :
    m.Enabled (.work : Event δ) ∨ m.Enabled (.join : Event δ) := by
  have dead := h.dead_iff.mpr (by simp [joining])
  cases here : m.phase with
  | absent | gone => exact .inr ⟨joining, by simp [here, Phase.isOver]⟩
  | parked =>
    have alive := life.running_alive (passing.parked_running here)
    simp [dead] at alive
  | _ => exact .inl (by simp [Enabled, here, Phase.canWork])

theorem refusing_of_dead {m : Machine σ} (dead : m.shared.isDead = true) : Refusing m where
  setState wanted spawn := by
    by_cases legal : wanted = .dead
    · have refused : m.setState wanted spawn = (.returned (.error .deadRequested), m) := by
        simp [Machine.setState, Session.setState, legal, Ending.isCrash]
      exact ⟨_, refused⟩
    · have refused : m.setState wanted spawn = (.returned (.error .sessionDead), m) := by
        simp [Machine.setState, Session.setState, legal, dead, Ending.isCrash]
      exact ⟨_, refused⟩
  acquire := by simp [Machine.acquire, Session.acquire, dead]
  reallocate shape := by simp [Machine.reallocate, Session.reallocate, dead]
  shutdown := by simp [Machine.shutdown, Session.beginShutdown?, dead]

namespace Rests

variable {m m' m'' : Machine σ}

theorem refl (m : Machine σ) : Rests m m :=
  ⟨m.shared.slot.busy, m.waiters, m.closing, [], rfl, by simp⟩

theorem trans (h : Rests m m') (h' : Rests m' m'') : Rests m m'' := by
  obtain ⟨_, _, _, new, rfl, failed⟩ := h
  obtain ⟨busy, waiters, closing, newer, rfl, failed'⟩ := h'
  refine ⟨busy, waiters, closing, newer ++ new, by simp, ?_⟩
  intro r hr
  rcases List.mem_append.mp hr with hr | hr
  · exact failed' r hr
  · exact failed r hr

theorem ended (h : Rests m m') (before : Over m) : Over m' := by
  obtain ⟨_, _, _, _, rfl, _⟩ := h
  exact ⟨before.dead, before.stopped, before.idle, before.left⟩

end Rests

variable {m : Machine σ} {d : δ}

/-- The display was asked for nothing after it was given back, and that once. -/
theorem Logged.release_last {log : Log} (h : Logged m log) {later earlier : List DisplayRequest}
    {id : UInt64} (split : log.display = later ++ .release id :: earlier) :
    id = m.info.id ∧ later = [] ∧ m.closing = .closed := by
  have display := h.display.symm.trans split
  have not_shown (made : .release id ∈ m.calls.filterMap (RenderCall.toRequest? m.resource)) : False := by
    cases RenderCall.not_isRelease_of_mem made
  -- What the render thread has asked is never a release, so the one release is that of the shutdown.
  generalize m.calls.filterMap (RenderCall.toRequest? m.resource) = shown at display not_shown
  cases stage : m.closing with
  | closed =>
    rw [stage, Closing.asked, List.singleton_append] at display
    rcases List.cons_eq_append_iff.mp display with ⟨rfl, same⟩ | ⟨later, rfl, rest⟩
    · cases same
      exact ⟨rfl, rfl, rfl⟩
    · exact (not_shown (by simp [rest])).elim
  | notYet | joining | relinquishing =>
    rw [stage, Closing.asked, List.nil_append] at display
    exact (not_shown (by simp [display])).elim

theorem Logged.releases {log : Log} (h : Logged m log) :
    log.display.countP DisplayRequest.isRelease = if m.closing = .closed then 1 else 0 := by
  have shown : (m.calls.filterMap (RenderCall.toRequest? m.resource)).countP
      DisplayRequest.isRelease = 0 := by
    rw [List.countP_eq_zero]
    intro call made
    simp [RenderCall.not_isRelease_of_mem made]
  rw [h.display, List.countP_append, shown]
  cases m.closing <;> rfl

variable [Renderer σ] [Display δ]

theorem trace_keeps_dead {c : Machine σ × δ} {es : List (Event δ)}
    (dead : c.1.shared.isDead = true) (valid : (system σ δ).Valid c es) :
    ((system σ δ).run c es).1.shared.isDead = true := by
  induction es generalizing c with
  | nil => exact dead
  | cons e es ih => exact ih (step_keeps_dead dead (next_move c.1 c.2 e valid.1)) valid.2

theorem step_rests {e : Event δ} {c : Machine σ × δ} (h : Over m) (move : Move m d e c) :
    Rests m c.1 := by
  have dead := h.dead
  have left := h.left
  cases move with
  | requestRefused | acquireRefused | reallocateRefused | shutdownAgain | outside => exact .refl m
  | rejected ticket c e | releasedIdle ticket c =>
    refine ⟨_, _, _, [(ticket, _)], rfl, ?_⟩
    simp
  | waitOn | strayWakeCaller | join | relinquish => exact ⟨_, _, _, [], rfl, by simp⟩
  | collect ticket =>
    rw [Session.collect_of_idle h.idle]
    exact ⟨false, _, _, [(ticket, .error .shutDown)], rfl, by simp⟩
  | request _ _ alive | start _ alive | startRefused _ _ alive | startCrashed _ _ alive
  | acquire alive | discarded _ _ _ _ _ alive | offerRefused _ _ _ _ _ alive
  | handOver _ _ _ _ _ alive | reallocate _ alive | shutdownRunning alive | shutdownHalted alive =>
    simp [dead] at alive
  | begin here | started _ _ here | startFailed _ _ _ here | startBroke _ _ here
  | recordFault _ here | park here | stop here | take _ here | skip _ here | composed _ _ here
  | composeFailed _ _ _ here | composeBroke _ _ here | presented _ _ here
  | presentFailed _ _ _ here | presentBroke _ _ here | publish _ here | leave _ here
  | strayWakeRender here => simp [here, Phase.isOver] at left

theorem trace_rests {c : Machine σ × δ} {es : List (Event δ)} (h : Over c.1)
    (valid : (system σ δ).Valid c es) : Rests c.1 ((system σ δ).run c es).1 := by
  induction es generalizing c with
  | nil => exact .refl c.1
  | cons e es ih =>
    have first := step_rests h (next_move c.1 c.2 e valid.1)
    exact first.trans (ih (first.ended h) valid.2)

theorem step_keeps_closed {e : Event δ} {c : Machine σ × δ} (dead : m.shared.isDead = true)
    (closed : m.closing = .closed) (move : Move m d e c) : c.1.closing = .closed := by
  cases move with
  | shutdownRunning alive | shutdownHalted alive => simp [dead] at alive
  | join joining => simp [closed] at joining
  | relinquish => rfl
  | _ => exact closed

/-- A session that is over and has given its display back asks for nothing any more. -/
theorem log_of_closed {c : (Machine σ × δ) × Log} {es : List (Event δ)} (h : Over c.1.1)
    (closed : c.1.1.closing = .closed) (valid : (recorded σ δ).Valid c es) :
    ((recorded σ δ).run c es).2 = c.2 := by
  induction es generalizing c with
  | nil => rfl
  | cons e es ih =>
    have move := next_move c.1.1 c.1.2 e valid.1.1
    -- The thread has left and the display was given back, so nobody is there to ask.
    have quiet : c.1.1.asks e = false := by
      have left := h.left
      cases e with
      | relinquish =>
        have ready : c.1.1.closing = .relinquishing := valid.1.1
        simp [closed] at ready
      | work => cases here : c.1.1.phase <;> simp_all [asks, Phase.isOver]
      | _ => rfl
    have same : ((recorded σ δ).next c e).2 = c.2 := Log.noted_of_quiet quiet
    have closed' : ((recorded σ δ).next c e).1.1.closing = .closed :=
      step_keeps_closed h.dead closed move
    rw [System.run_cons, ih ((step_rests h move).ended h) closed' valid.2, same]

/-- A shutdown takes effect once and for ever. The display is given back once, when the render thread has
left, and is asked for nothing after that, nor is the renderer. From then on the state of the session stays
as it is but for the check-in of buffers, no release succeeds, and all other calls are refused. -/
theorem shutdown_is_final (info : DisplayInfo) (resource : UInt64) (shape : BufferShape)
    (renderer : σ) (d : δ) {es : List (Event δ)}
    (valid : ((recorded σ δ).only (·.spawnReturns = true)).Valid
      ((Machine.fresh info resource shape renderer, d), {}) es) :
    let c := (recorded σ δ).run ((Machine.fresh info resource shape renderer, d), {}) es
    let m := c.1.1
    (m.shared.isDead = true ↔ m.closing ≠ .notYet) ∧
    (m.shared.isDead = true → Refusing m ∧
      ∀ fs, (recorded σ δ).Valid c fs → ((recorded σ δ).run c fs).1.1.shared.isDead = true) ∧
    c.2.display.countP DisplayRequest.isRelease = (if m.closing = .closed then 1 else 0) ∧
    (∀ later id earlier, c.2.display = later ++ .release id :: earlier →
      id = info.id ∧ later = [] ∧ m.phase.isOver = true) ∧
    (m.closing = .joining → m.Enabled (.work : Event δ) ∨ m.Enabled (.join : Event δ)) ∧
    (m.closing = .relinquishing ∨ m.closing = .closed → ∀ fs, (recorded σ δ).Valid c fs →
      let c' := (recorded σ δ).run c fs
      Rests m c'.1.1 ∧ Over c'.1.1 ∧ Refusing c'.1.1 ∧ (m.closing = .closed → c'.2 = c.2)) := by
  intro c m
  obtain ⟨plain, returns⟩ := (System.valid_only _ _ _ _).mp valid
  have reached : (recorded σ δ).Reachable ((Machine.fresh info resource shape renderer, d), {}) c :=
    ⟨es, plain, rfl⟩
  have only : ((system σ δ).only (·.spawnReturns = true)).Reachable
      (Machine.fresh info resource shape renderer, d) c.1 := by
    refine ⟨es, (System.valid_only _ _ _ _).mpr ⟨System.valid_of_observed plain, returns⟩, ?_⟩
    rw [System.run_only]
    exact (run_recorded ((Machine.fresh info resource shape renderer, d), {}) es).symm
  obtain ⟨life, passing⟩ := fresh_passing only.of_only
  have winding := reachable_winding (Winding.initial info resource shape renderer) only.of_only
  have clean := reachable_clean rfl only
  obtain ⟨logged, named, _⟩ := reachable_logged info resource shape renderer d reached
  have later := run_recorded c
  refine ⟨winding.dead_iff, ?_, logged.releases, ?_, winding.goes_on life passing, ?_⟩
  · intro dead
    refine ⟨refusing_of_dead dead, fun fs valid => ?_⟩
    rw [later]
    exact trace_keeps_dead dead (System.valid_of_observed valid)
  · intro newer id earlier split
    obtain ⟨same, last, closed⟩ := logged.release_last split
    exact ⟨same.trans (by rw [named]), last, winding.left (.inr closed)⟩
  · intro given fs valid
    have ended := winding.ended life passing clean given
    have rests := trace_rests ended (System.valid_of_observed valid)
    rw [← later] at rests
    have still := rests.ended ended
    exact ⟨rests, still, refusing_of_dead still.dead, fun closed => log_of_closed ended closed valid⟩

/-- The session is shut down while a frame is composed, which is still shown and counted. A buffer that is
returned after that changes nothing. -/
theorem shutdown_is_final_while_composing :
    let shape : BufferShape := ⟨4, 2, 1, .rgba8888, .none, 4⟩
    let c₀ : (Machine Rehearsal × HeadlessDisplay) × Log :=
      ((Machine.fresh ⟨1, "panel", 4, 2, 0⟩ 1 shape {}, { owner := some 1 }), {})
    let es : List (Event HeadlessDisplay) :=
      [.setState .visible .started, .acquire, .release 0 ⟨shape, 1, 1, []⟩, .work, .work, .work,
        .shutdown, .work, .work, .work, .work, .work, .resume 0, .join, .relinquish]
    let c := (recorded Rehearsal HeadlessDisplay).run c₀ es
    let c' := (recorded Rehearsal HeadlessDisplay).run c [.release 1 ⟨shape, 1, 1, []⟩]
    ((recorded Rehearsal HeadlessDisplay).only (·.spawnReturns = true)).Valid c₀ es ∧
      c.2.display = [.release 1, .present 1 ⟨⟨shape, 1, 1⟩, 1⟩] ∧
      c.2.display.countP DisplayRequest.isRelease = 1 ∧ c.1.1.shared.tally.presented = 1 ∧
      c.1.1.returned.map (·.1) = [0] ∧ Over c'.1.1 ∧ Rests c.1.1 c'.1.1 ∧ Refusing c'.1.1 ∧
      c'.2 = c.2 := by
  intro shape c₀ es c c'
  have valid : ((recorded Rehearsal HeadlessDisplay).only (·.spawnReturns = true)).Valid c₀ es := by
    decide
  have closed : c.1.1.closing = .closed := by decide
  obtain ⟨_, _, released, _, _, final⟩ := shutdown_is_final _ _ _ _ _ valid
  obtain ⟨rests, still, refusing, kept⟩ := final (.inr closed) [.release 1 ⟨shape, 1, 1, []⟩] (by decide)
  exact ⟨valid, by decide, released.trans (if_pos closed), by decide, by decide, still, rests, refusing,
    kept closed⟩

end Machine

end DisplaySurface
