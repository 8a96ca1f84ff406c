import DisplaySurface.Proofs.Machine.Lifetime

/-!
How frames and outcomes pass between callers and the render thread. At most one caller waits; it has a
frame on its way or nothing left to wait for, and who is parked has nothing to wake up for.
-/

namespace DisplaySurface

def Phase.isDrawing : Phase → Bool
  | composing _ | presenting _ | publishing _ => true
  | _ => false

@[simp] theorem Phase.isDrawing_notified (p : Phase) : p.notified.isDrawing = p.isDrawing := by
  cases p <;> rfl

theorem Phase.notified_drawing (p : Phase) : p.notified = p ∨ p.notified.isDrawing = false := by
  rcases p.notified_eq_or with same | parked
  · exact .inl same
  · exact .inr (by rw [parked]; rfl)

namespace Machine

variable {σ δ : Type}

def waiting (m : Machine σ) : List Nat :=
  m.waiters.map (·.ticket)

@[simp] theorem waiting_wakeAll (m : Machine σ) : m.wakeAll.waiting = m.waiting := by
  simp [waiting, wakeAll]

@[simp] theorem waiting_wakeCallers (m : Machine σ) : m.wakeCallers.waiting = m.waiting := by
  simp [waiting, wakeCallers]

theorem waiting_mark (m : Machine σ) (ticket : Nat) (parked : Bool) :
    ({ m with waiters := m.waiters.map fun w =>
      if w.ticket = ticket then { w with parked } else w } : Machine σ).waiting = m.waiting := by
  simp only [waiting, List.map_map]
  refine List.map_congr_left fun w _ => ?_
  simp only [Function.comp_apply]
  split <;> rfl

theorem mem_waiting_of_mem {m : Machine σ} {ticket : Nat} {parked : Bool}
    (h : ⟨ticket, parked⟩ ∈ m.waiters) : ticket ∈ m.waiting :=
  List.mem_map_of_mem h

theorem mem_waiting_without {m : Machine σ} {ticket t : Nat} :
    t ∈ (m.waiters.filter fun w => w.ticket ≠ ticket).map (·.ticket) ↔
      t ∈ m.waiting ∧ t ≠ ticket := by
  simp only [waiting, List.mem_map, List.mem_filter, decide_eq_true_eq]
  constructor
  · rintro ⟨w, ⟨hw, other⟩, rfl⟩
    exact ⟨⟨w, hw, rfl⟩, other⟩
  · rintro ⟨⟨w, hw, rfl⟩, other⟩
    exact ⟨w, ⟨hw, other⟩, rfl⟩

theorem somebody_of_mem_waiting {m : Machine σ} {ticket : Nat} (h : ticket ∈ m.waiting) :
    m.waiters ≠ [] := by
  intro nobody
  simp [waiting, nobody] at h

/-- How callers and the render thread stand to each other. -/
structure Passing (m : Machine σ) : Prop where
  drawing_rendering : m.phase.isDrawing = true → m.shared.handoff = .rendering
  rendering_drawing : m.shared.handoff = .rendering →
    m.phase.isDrawing = true ∨ m.phase = .leaving true
  stopped_idle : m.shared.thread = .stopped → m.shared.handoff = .idle
  parked_running : m.phase = .parked → m.shared.thread = .running
  parked_empty : m.phase = .parked → m.shared.handoff.isReady = false
  waiting_one : m.waiters.length ≤ 1
  waiting_cause : m.waiters ≠ [] → m.shared.isCancelled = true ∨ m.shared.handoff ≠ .idle
  occupied_claimed : m.shared.handoff ≠ .idle → m.waiters ≠ [] ∨ m.shared.isDead = true
  unstarted_nobody : m.phase = .absent → m.poisoned = false → m.waiters = []
  parked_must : ∀ ticket, ⟨ticket, true⟩ ∈ m.waiters → m.shared.mustWait = true

namespace Passing

theorem initial (info : DisplayInfo) (resource : UInt64) (shape : BufferShape) (renderer : σ) :
    Passing (Machine.fresh info resource shape renderer) := by
  constructor <;> simp [Machine.fresh, Session.new, Phase.isDrawing]

variable {m m' : Machine σ}

theorem waiting_eq (h : Passing m) {w : Waiter} (hw : w ∈ m.waiters) : m.waiters = [w] := by
  have one := h.waiting_one
  cases waiting : m.waiters with
  | nil => simp [waiting] at hw
  | cons v vs =>
    rw [waiting] at hw one
    have alone : vs = [] := by simpa using one
    rw [alone] at hw ⊢
    rw [List.mem_singleton.mp hw]

/-- A lock is poisoned where no thread was created, and then no frame is ever drawn. -/
theorem undrawn_of_poisoned (h : Passing m) (life : Lifetime m) (poisoned : m.poisoned = true) :
    m.shared.handoff ≠ .rendering := by
  intro rendering
  have absent := life.poisoned_absent poisoned
  simpa [absent, Phase.isDrawing] using h.rendering_drawing rendering

/-- Who returns while a frame is drawn has nothing to wait for. -/
theorem over_of_rendering (h : Passing m) (life : Lifetime m) (rendering : m.shared.handoff = .rendering)
    (settled : m.shared.mustWait = false ∨ m.poisoned = true) : m.shared.mustWait = false := by
  rcases settled with settled | poisoned
  · exact settled
  · exact absurd rendering (h.undrawn_of_poisoned life poisoned)

theorem nobody_waits (h : Passing m) (alive : m.shared.isDead = false)
    (running : m.shared.thread = .running) (idle : m.shared.handoff = .idle) : m.waiters = [] := by
  cases waiting : m.waiters with
  | nil => rfl
  | cons w ws =>
    rcases h.waiting_cause (by simp [waiting]) with cancelled | occupied
    · simp [Session.isCancelled_eq_true_iff, alive, running] at cancelled
    · exact absurd idle occupied

theorem undrawn_of_idle (h : Passing m) (idle : m.shared.handoff = .idle) :
    m.phase.isDrawing = false := by
  cases drawing : m.phase.isDrawing with
  | false => rfl
  | true => simp [h.drawing_rendering drawing] at idle

theorem nobody_of_renderer (h : Passing m) (life : Lifetime m)
    (present : m.shared.hasRenderer = true) : m.waiters = [] :=
  h.unstarted_nobody (life.renderer_absent present) (life.renderer_clean present)

theorem onward (h : Passing m) (handoff : m'.shared.handoff = m.shared.handoff)
    (thread : m'.shared.thread = m.shared.thread) (dead : m'.shared.isDead = m.shared.isDead)
    (waiters : m'.waiters = m.waiters) (poisoned : m'.poisoned = m.poisoned)
    (absent : m'.phase = .absent → m.phase = .absent) (parked : m'.phase = .parked → m.phase = .parked)
    (drawing : m'.phase.isDrawing = true → m.phase.isDrawing = true)
    (keeps : m.phase.isDrawing = true ∨ m.phase = .leaving true →
      m'.phase.isDrawing = true ∨ m'.phase = .leaving true) : Passing m' := by
  have cancelled : m'.shared.isCancelled = m.shared.isCancelled := by
    simp [Session.isCancelled, dead, thread]
  have must : m'.shared.mustWait = m.shared.mustWait := by
    simp [Session.mustWait, handoff, cancelled]
  constructor
  · rw [handoff]
    intro here
    exact h.drawing_rendering (drawing here)
  · rw [handoff]
    intro rendering
    exact keeps (h.rendering_drawing rendering)
  · simpa only [thread, handoff] using h.stopped_idle
  · rw [thread]
    intro here
    exact h.parked_running (parked here)
  · rw [handoff]
    intro here
    exact h.parked_empty (parked here)
  · simpa only [waiters] using h.waiting_one
  · simpa only [waiters, cancelled, handoff] using h.waiting_cause
  · simpa only [waiters, dead, handoff] using h.occupied_claimed
  · rw [poisoned, waiters]
    intro here
    exact h.unstarted_nobody (absent here)
  · simpa only [waiters, must] using h.parked_must

theorem taken (h : Passing m) (life : Lifetime m) {frame : Submission}
    (running : m.shared.thread = .running) (ready : m.shared.handoff = .ready frame)
    (shared : m'.shared = { m.shared with handoff := .rendering })
    (waiters : m'.waiters = m.waiters) (drawing : m'.phase.isDrawing = true) : Passing m' := by
  have alive := life.running_alive running
  have somebody : m.waiters ≠ [] := by
    have claimed := h.occupied_claimed (by simp [ready])
    simpa [alive] using claimed
  have must : m'.shared.mustWait = true := by
    rw [shared]
    exact (Session.mustWait_eq_true_iff _).mpr ⟨rfl, alive, running⟩
  constructor
  · simp [shared]
  · intro _
    exact .inl drawing
  · simp [shared, running]
  · intro parked
    simp [parked, Phase.isDrawing] at drawing
  · intro parked
    simp [parked, Phase.isDrawing] at drawing
  · simpa only [waiters] using h.waiting_one
  · simp [shared]
  · simp [waiters, somebody]
  · intro absent
    simp [absent, Phase.isDrawing] at drawing
  · intro _ _
    exact must

theorem shutDown (h : Passing m) {thread : Lifecycle}
    {past : List (Lifecycle × LifecycleEvent)} (halted : thread ≠ .running)
    (idle : thread = .stopped → m.shared.handoff = .idle) :
    Passing { { m with shared := { m.shared with requested := .dead, thread, past } }.wakeAll with
      closing := .joining } := by
  constructor
  · simpa [wakeAll] using h.drawing_rendering
  · simpa [wakeAll] using h.rendering_drawing
  · exact idle
  · intro parked
    exact absurd parked (Phase.notified_ne_parked _)
  · intro parked
    exact absurd parked (Phase.notified_ne_parked _)
  · simpa [wakeAll] using h.waiting_one
  · simp [wakeAll, Session.isCancelled_eq_true_iff, halted]
  · simp [wakeAll, Session.isDead]
  · simpa [wakeAll] using h.unstarted_nobody
  · simp [wakeAll]

theorem marked (h : Passing m) (must : m.shared.mustWait = true) (ticket : Nat) (parked : Bool) :
    Passing { m with waiters := m.waiters.map fun w =>
      if w.ticket = ticket then { w with parked } else w } := by
  constructor
  · exact h.drawing_rendering
  · exact h.rendering_drawing
  · exact h.stopped_idle
  · exact h.parked_running
  · exact h.parked_empty
  · simpa using h.waiting_one
  · simpa using h.waiting_cause
  · simpa using h.occupied_claimed
  · simpa using h.unstarted_nobody
  · intro _ _
    exact must

end Passing

variable [Renderer σ] [Display δ] {m : Machine σ} {d : δ}

theorem step_preserves_passing {e : Event δ} {c : Machine σ × δ} (life : Lifetime m)
    (h : Passing m) (move : Move m d e c) : Passing c.1 := by
  cases move with
  | requestRefused | acquireRefused | acquire | rejected | releasedIdle | discarded | offerRefused
  | reallocateRefused | reallocate | shutdownAgain | join | relinquish | outside => exact { h with }
  | request wanted spawn alive legal keeps =>
    exact h.onward rfl rfl (Session.isDead_request alive legal) rfl rfl id id id id
  | start wanted alive visible stopped sound present =>
    have nobody := h.nobody_of_renderer life present
    have idle := h.stopped_idle stopped
    constructor <;> simp [nobody, idle, Phase.isDrawing]
  | startRefused wanted reason alive visible stopped sound present =>
    have nobody := h.nobody_of_renderer life present
    have idle := h.stopped_idle stopped
    have absent := life.renderer_absent present
    constructor <;> simp [nobody, idle, absent, Phase.isDrawing]
  | startCrashed wanted crash alive visible stopped sound present =>
    have nobody := h.nobody_of_renderer life present
    have idle := h.stopped_idle stopped
    have absent := life.renderer_absent present
    constructor <;> simp [nobody, idle, absent, Phase.isDrawing]
  | handOver ticket c unused unreturned valid alive running visible idle =>
    have nobody := h.nobody_waits alive running idle
    have undrawn := h.undrawn_of_idle idle
    constructor
    · simp [undrawn]
    · simp
    · simp [running]
    · intro parked
      exact absurd parked (Phase.notified_ne_parked _)
    · intro parked
      exact absurd parked (Phase.notified_ne_parked _)
    · simp [nobody]
    · simp
    · simp
    · intro absent clean
      simp [life.absent_stopped (by simpa using absent) clean] at running
    · intro _ _
      exact (Session.mustWait_eq_true_iff _).mpr ⟨rfl, alive, running⟩
  | shutdownRunning alive running => exact h.shutDown nofun nofun
  | shutdownHalted alive halted => exact h.shutDown halted h.stopped_idle
  | recordFault e here =>
    refine h.onward rfl rfl rfl rfl rfl ?_ ?_ ?_ ?_ <;> simp [here, Phase.isDrawing]
  | begin here | started _ _ here | startFailed _ _ _ here | startBroke _ _ here | stop here
  | composed _ _ here | composeFailed _ _ _ here | composeBroke _ _ here | presented _ _ here
  | presentFailed _ _ _ here | presentBroke _ _ here | strayWakeRender here =>
    apply h.onward <;> simp [here, Phase.isDrawing]
  | park here running none =>
    constructor
    · simp [Phase.isDrawing]
    · intro rendering
      simpa [here, Phase.isDrawing] using h.rendering_drawing rendering
    · exact h.stopped_idle
    · intro _
      exact running
    · intro _
      exact none
    · exact h.waiting_one
    · exact h.waiting_cause
    · exact h.occupied_claimed
    · simp
    · exact h.parked_must
  | take frame here running ready visible => exact h.taken life running ready rfl rfl rfl
  | skip frame here running ready hidden => exact h.taken life running ready rfl rfl rfl
  | publish r here =>
    have rendering := h.drawing_rendering (by simp [here, Phase.isDrawing])
    have recorded := life.not_stopped (by simp [here, Phase.isOver])
    have finished := Session.finishFrame_handoff rendering r
    constructor
    · simp [wakeCallers, Phase.isDrawing]
    · simp [wakeCallers, finished]
    · intro stopped
      exact absurd stopped recorded
    · simp [wakeCallers]
    · simp [wakeCallers]
    · simpa [wakeCallers] using h.waiting_one
    · simp [wakeCallers, finished]
    · intro _
      simpa [wakeCallers] using h.occupied_claimed (by simp [rendering])
    · simp [wakeCallers]
    · simp [wakeCallers]
  | leave crashed here =>
    constructor
    · simp [wakeAll, Phase.notified, Phase.isDrawing]
    · simp [wakeAll]
    · simp [wakeAll]
    · simp [wakeAll, Phase.notified]
    · simp [wakeAll, Phase.notified]
    · simpa [wakeAll] using h.waiting_one
    · simp [wakeAll, Session.isCancelled_eq_true_iff]
    · simp [wakeAll]
    · simp [wakeAll]
    · simp [wakeAll]
  | waitOn ticket woken must clean => exact h.marked must ticket true
  | strayWakeCaller ticket parked => exact h.marked (h.parked_must ticket parked) ticket false
  | collect ticket woken settled =>
    have alone := h.waiting_eq woken
    constructor
    · intro drawing
      simpa using h.drawing_rendering drawing
    · intro rendering
      exact h.rendering_drawing (by simpa using rendering)
    · intro stopped
      simp [h.stopped_idle (by simpa using stopped)]
    · simpa using h.parked_running
    · simp
    · simp [alone]
    · simp [alone]
    · intro occupied
      have rendering : m.shared.handoff = .rendering := by simpa using occupied
      right
      -- Without an outcome only a shutdown ends the wait while the frame is still being drawn.
      have settled := h.over_of_rendering life rendering settled
      rcases (Session.mustWait_eq_false_iff _).mp settled with done | dead | halted
      · simp [rendering, Handoff.isDone] at done
      · simpa using dead
      · cases alive : m.shared.isDead with
        | true => simpa using alive
        | false =>
          have stopped := life.stopped_of_halted alive halted
          simp [h.stopped_idle stopped] at rendering
    · simp [alone]
    · simp [alone]

theorem step_keeps_waiting {e : Event δ} {c : Machine σ × δ} {ticket : Nat}
    (waits : ticket ∈ m.waiting) (other : e ≠ .resume ticket) (move : Move m d e c) :
    ticket ∈ c.1.waiting := by
  obtain ⟨w, hw, rfl⟩ := List.mem_map.mp waits
  cases move with
  | handOver => exact List.mem_map.mpr ⟨w, List.mem_append_left _ hw, rfl⟩
  | shutdownRunning | shutdownHalted | publish | leave =>
    exact List.mem_map.mpr ⟨{ w with parked := false }, List.mem_map.mpr ⟨w, hw, rfl⟩, rfl⟩
  | waitOn | strayWakeCaller =>
    refine List.mem_map.mpr ⟨_, List.mem_map_of_mem hw, ?_⟩
    split <;> rfl
  | collect t =>
    refine List.mem_map.mpr ⟨w, List.mem_filter.mpr ⟨hw, ?_⟩, rfl⟩
    simp only [decide_eq_true_eq]
    rintro rfl
    exact other rfl
  | _ => exact waits

theorem reachable_passing {c₀ c : Machine σ × δ} (life : Lifetime c₀.1) (h₀ : Passing c₀.1)
    (h : (system σ δ).Reachable c₀ c) : Passing c.1 :=
  h.invariant (I := fun c => Passing c.1) h₀ fun c e hr hc he =>
    step_preserves_passing (reachable_lifetime life hr) hc (next_move c.1 c.2 e he)

theorem fresh_passing {info : DisplayInfo} {resource : UInt64} {shape : BufferShape} {renderer : σ}
    {d : δ} {c : Machine σ × δ}
    (h : (system σ δ).Reachable (Machine.fresh info resource shape renderer, d) c) :
    Lifetime c.1 ∧ Passing c.1 := by
  have life := Lifetime.initial info resource shape renderer
  exact ⟨reachable_lifetime life h,
    reachable_passing life (Passing.initial info resource shape renderer) h⟩

end Machine

end DisplaySurface
