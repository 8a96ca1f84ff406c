import DisplaySurface.Proofs.Machine.Moves

/-!
The render thread's life as the session records it, and the thread that there is. The record is changed
under the lock, the thread moves on its own; what ties them together holds between any two sections.
-/

namespace DisplaySurface.Machine

variable {σ δ : Type}

/-- How the record of the render thread's life fits the thread. A poisoned session is one that recorded
a thread and never got it. -/
structure Lifetime (m : Machine σ) : Prop where
  running_alive : m.shared.thread = .running → m.shared.isDead = false
  stopping_dead : m.shared.thread = .stopping → m.shared.isDead = true
  stopped_over : m.shared.thread = .stopped → m.phase.isOver = true
  gone_stopped : m.phase = .gone → m.shared.thread = .stopped
  absent_stopped : m.phase = .absent → m.poisoned = false → m.shared.thread = .stopped
  poisoned_absent : m.poisoned = true → m.phase = .absent
  poisoned_recorded : m.poisoned = true → m.shared.thread ≠ .stopped
  renderer_absent : m.shared.hasRenderer = true → m.phase = .absent
  renderer_clean : m.shared.hasRenderer = true → m.poisoned = false
  left_reason : m.phase = .leaving false → m.shared.isDead = true ∨ m.shared.fault.isSome = true
  gone_reason : m.phase = .gone → m.shared.isDead = true ∨ m.shared.fault.isSome = true

namespace Lifetime

theorem initial (info : DisplayInfo) (resource : UInt64) (shape : BufferShape) (renderer : σ) :
    Lifetime (Machine.fresh info resource shape renderer) := by
  constructor <;> simp [Machine.fresh, Session.new, Phase.isOver]

variable {m m' : Machine σ} {d : δ}

theorem not_stopped (h : Lifetime m) (here : m.phase.isOver = false) :
    m.shared.thread ≠ .stopped := by
  intro stopped
  rw [h.stopped_over stopped] at here
  cases here

theorem clean (h : Lifetime m) (here : m.phase ≠ .absent) : m.poisoned = false := by
  cases poisoned : m.poisoned with
  | false => rfl
  | true => exact absurd (h.poisoned_absent poisoned) here

theorem rendererless (h : Lifetime m) (here : m.phase ≠ .absent) :
    m.shared.hasRenderer = false := by
  cases present : m.shared.hasRenderer with
  | false => rfl
  | true => exact absurd (h.renderer_absent present) here

theorem poisoned_of_recorded (h : Lifetime m) (recorded : m.shared.thread ≠ .stopped)
    (absent : m.phase = .absent) : m.poisoned = true := by
  cases poisoned : m.poisoned with
  | true => rfl
  | false => exact absurd (h.absent_stopped absent poisoned) recorded

theorem rendererless_of_recorded (h : Lifetime m) (recorded : m.shared.thread ≠ .stopped) :
    m.shared.hasRenderer = false := by
  cases present : m.shared.hasRenderer with
  | false => rfl
  | true =>
    have stopped := h.absent_stopped (h.renderer_absent present) (h.renderer_clean present)
    exact absurd stopped recorded

theorem stopped_of_halted (h : Lifetime m) (alive : m.shared.isDead = false)
    (halted : m.shared.thread ≠ .running) : m.shared.thread = .stopped := by
  cases thread : m.shared.thread with
  | stopped => rfl
  | running => exact absurd thread halted
  | stopping => simp [h.stopping_dead thread] at alive

theorem stopping_of_halted (h : Lifetime m) (here : m.phase.isOver = false)
    (halted : m.shared.thread ≠ .running) : m.shared.thread = .stopping := by
  cases thread : m.shared.thread with
  | stopping => rfl
  | running => exact absurd thread halted
  | stopped => exact absurd thread (h.not_stopped here)

theorem onward (h : Lifetime m) (here : m.phase.isOver = false) (there : m'.phase.isOver = false)
    (thread : m'.shared.thread = m.shared.thread) (dead : m'.shared.isDead = m.shared.isDead)
    (reason : m'.phase = .leaving false → m'.shared.isDead = true ∨ m'.shared.fault.isSome = true) :
    m'.poisoned = m.poisoned → m'.shared.hasRenderer = m.shared.hasRenderer → Lifetime m' := by
  intro poisoned renderer
  have somewhere : m.phase ≠ .absent := by
    intro absent
    simp [absent, Phase.isOver] at here
  have clean := h.clean somewhere
  have rendererless := h.rendererless somewhere
  constructor
  · simpa only [thread, dead] using h.running_alive
  · simpa only [thread, dead] using h.stopping_dead
  · intro stopped
    exact absurd (thread ▸ stopped) (h.not_stopped here)
  · intro gone
    simp [gone, Phase.isOver] at there
  · intro absent
    simp [absent, Phase.isOver] at there
  · simp [poisoned, clean]
  · simp [poisoned, clean]
  · simp [renderer, rendererless]
  · simp [renderer, rendererless]
  · exact reason
  · intro gone
    simp [gone, Phase.isOver] at there

theorem unmoved (h : Lifetime m) (phase : m'.phase = m.phase ∨ m'.phase = m.phase.notified)
    (thread : m'.shared.thread = m.shared.thread) (dead : m'.shared.isDead = m.shared.isDead)
    (fault : m'.shared.fault = m.shared.fault) (poisoned : m'.poisoned = m.poisoned)
    (renderer : m'.shared.hasRenderer = m.shared.hasRenderer) : Lifetime m' := by
  have settled : m'.phase.isOver = m.phase.isOver := by rcases phase with p | p <;> simp [p]
  have absent : m'.phase = .absent ↔ m.phase = .absent := by rcases phase with p | p <;> simp [p]
  have gone : m'.phase = .gone ↔ m.phase = .gone := by rcases phase with p | p <;> simp [p]
  have leaving : m'.phase = .leaving false ↔ m.phase = .leaving false := by
    rcases phase with p | p <;> simp [p]
  constructor
  · simpa only [thread, dead] using h.running_alive
  · simpa only [thread, dead] using h.stopping_dead
  · simpa only [thread, settled] using h.stopped_over
  · simpa only [thread, gone] using h.gone_stopped
  · simpa only [thread, absent, poisoned] using h.absent_stopped
  · simpa only [absent, poisoned] using h.poisoned_absent
  · simpa only [thread, poisoned] using h.poisoned_recorded
  · simpa only [absent, renderer] using h.renderer_absent
  · simpa only [poisoned, renderer] using h.renderer_clean
  · simpa only [leaving, dead, fault] using h.left_reason
  · simpa only [gone, dead, fault] using h.gone_reason

end Lifetime

variable [Renderer σ] [Display δ] {m : Machine σ} {d : δ}

theorem step_preserves_lifetime {e : Event δ} {c : Machine σ × δ} (h : Lifetime m)
    (move : Move m d e c) : Lifetime c.1 := by
  cases move with
  | requestRefused | acquireRefused | acquire | rejected | releasedIdle | discarded | offerRefused
  | reallocateRefused | reallocate | shutdownAgain | waitOn | join | relinquish | strayWakeCaller
  | outside => exact { h with }
  | collect => exact h.unmoved (.inl rfl) (by simp) (by simp) (by simp) rfl (by simp)
  | request wanted spawn alive legal keeps =>
    exact h.unmoved (.inl rfl) rfl (Session.isDead_request alive legal) rfl rfl rfl
  | start wanted alive visible stopped sound present =>
    have legal := Visibility.ne_dead_of_isVisible visible
    constructor <;> simp [Session.isDead, legal, h.renderer_clean present]
  | startRefused wanted reason alive visible stopped sound present =>
    have absent := h.renderer_absent present
    have clean := h.renderer_clean present
    constructor <;> simp [absent, clean, Phase.isOver]
  | startCrashed wanted crash alive visible stopped sound present =>
    have absent := h.renderer_absent present
    have lives : m.shared.requested ≠ .dead := by simpa [Session.isDead] using alive
    constructor <;> simp [absent, Session.isDead, lives]
  | handOver => exact h.unmoved (.inr rfl) rfl rfl rfl rfl rfl
  | shutdownRunning alive running =>
    have moving : m.shared.thread ≠ .stopped := by simp [running]
    have unfinished : m.phase ≠ .gone := fun gone => moving (h.gone_stopped gone)
    have rendererless := h.rendererless_of_recorded moving
    constructor
    · simp [wakeAll]
    · simp [wakeAll, Session.isDead]
    · simp [wakeAll]
    · simp [wakeAll, unfinished]
    · simpa [wakeAll] using h.poisoned_of_recorded moving
    · simpa [wakeAll] using h.poisoned_absent
    · simp [wakeAll]
    · simp [wakeAll, rendererless]
    · simp [wakeAll, rendererless]
    · simp [wakeAll, Session.isDead]
    · simp [wakeAll, Session.isDead]
  | shutdownHalted alive halted =>
    constructor
    · intro running
      exact absurd running halted
    · simp [wakeAll, Session.isDead]
    · simpa [wakeAll] using h.stopped_over
    · simpa [wakeAll] using h.gone_stopped
    · simpa [wakeAll] using h.absent_stopped
    · simpa [wakeAll] using h.poisoned_absent
    · simpa [wakeAll] using h.poisoned_recorded
    · simpa [wakeAll] using h.renderer_absent
    · exact h.renderer_clean
    · simp [wakeAll, Session.isDead]
    · simp [wakeAll, Session.isDead]
  | begin here | started _ _ here | startFailed _ _ _ here | startBroke _ _ here | park here
  | take _ here | skip _ here | composed _ _ here | composeFailed _ _ _ here | composeBroke _ _ here
  | presented _ _ here | presentFailed _ _ _ here | presentBroke _ _ here | strayWakeRender here =>
    have there : m.phase.isOver = false := by simp [here, Phase.isOver]
    exact h.onward there rfl rfl rfl (by simp) rfl rfl
  | recordFault e here =>
    have there : m.phase.isOver = false := by simp [here, Phase.isOver]
    exact h.onward there rfl rfl rfl (fun _ => .inr rfl) rfl rfl
  | stop here halted =>
    have there : m.phase.isOver = false := by simp [here, Phase.isOver]
    have stopping := h.stopping_of_halted there halted
    exact h.onward there rfl rfl rfl (fun _ => .inl (h.stopping_dead stopping)) rfl rfl
  | publish r here =>
    have there : m.phase.isOver = false := by simp [here, Phase.isOver]
    exact h.onward there rfl rfl (by simp [wakeCallers]) (by simp [wakeCallers]) rfl rfl
  | leave crashed here =>
    have somewhere : m.phase ≠ .absent := by simp [here]
    have clean := h.clean somewhere
    have rendererless := h.rendererless somewhere
    constructor
    · simp [wakeAll]
    · simp [wakeAll]
    · simp [wakeAll, Phase.notified, Phase.isOver]
    · simp [wakeAll]
    · simp [wakeAll]
    · simp [wakeAll, clean]
    · simp [wakeAll, clean]
    · simp [wakeAll, rendererless]
    · simp [wakeAll, rendererless]
    · simp [wakeAll, Phase.notified]
    · intro _
      cases crashed with
      | false => simpa [wakeAll, Session.exit_fault] using h.left_reason here
      | true => cases fault : m.shared.fault <;> simp [wakeAll, Session.exit_fault, fault]

theorem step_keeps_fault {e : Event δ} {c : Machine σ × δ} (fault : m.shared.fault.isSome = true)
    (move : Move m d e c) : c.1.shared.fault.isSome = true := by
  cases move with
  | startRefused | recordFault => rfl
  | collect => simpa using fault
  | leave crashed =>
    cases old : m.shared.fault with
    | none => simp [old] at fault
    | some e => simp [wakeAll, Session.exit_fault, old]
  | _ => exact fault

theorem step_keeps_dead {e : Event δ} {c : Machine σ × δ} (dead : m.shared.isDead = true)
    (move : Move m d e c) : c.1.shared.isDead = true := by
  cases move with
  | request _ _ alive | start _ alive | startRefused _ _ alive | startCrashed _ _ alive =>
    simp [dead] at alive
  | shutdownRunning | shutdownHalted => rfl
  | publish | leave | collect => simpa [wakeCallers, wakeAll] using dead
  | _ => exact dead

theorem step_keeps_begun {e : Event δ} {c : Machine σ × δ} (begun : m.phase ≠ .absent)
    (move : Move m d e c) : c.1.phase ≠ .absent := by
  cases move with
  | handOver | shutdownRunning | shutdownHalted => simpa [wakeAll] using begun
  | start | begin | started | startFailed | startBroke | recordFault | park | stop | take | skip
  | composed | composeFailed | composeBroke | presented | presentFailed | presentBroke | publish
  | leave | strayWakeRender => simp [wakeAll, wakeCallers, Phase.notified]
  | _ => exact begun

/-- Who has left does not come back, and no other thread comes in its place. -/
theorem step_keeps_gone {e : Event δ} {c : Machine σ × δ} (life : Lifetime m) (gone : m.phase = .gone)
    (move : Move m d e c) : c.1.phase = .gone := by
  cases move with
  | start _ _ _ _ _ present => simp [life.renderer_absent present] at gone
  | handOver | shutdownRunning | shutdownHalted => simpa [wakeAll] using gone
  | begin here | started _ _ here | startFailed _ _ _ here | startBroke _ _ here | recordFault _ here
  | park here | stop here | take _ here | skip _ here | composed _ _ here | composeFailed _ _ _ here
  | composeBroke _ _ here | presented _ _ here | presentFailed _ _ _ here | presentBroke _ _ here
  | publish _ here | leave _ here | strayWakeRender here => simp [here] at gone
  | _ => exact gone

theorem reachable_lifetime {c₀ c : Machine σ × δ} (h₀ : Lifetime c₀.1)
    (h : (system σ δ).Reachable c₀ c) : Lifetime c.1 :=
  h.invariant (I := fun c => Lifetime c.1) h₀ fun c e _ hc he =>
    step_preserves_lifetime hc (next_move c.1 c.2 e he)

end DisplaySurface.Machine
