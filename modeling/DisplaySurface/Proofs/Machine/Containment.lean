import DisplaySurface.Proofs.Machine.Career
import DisplaySurface.Proofs.Machine.Flight

/-!
How far a fault of the render thread goes. It is recorded once and stays, the thread that it ends makes no
more calls and is never replaced, and the callers go on with a session that shows nothing any more. A
frame that cannot be composed or presented is no fault.
-/

namespace DisplaySurface

/-- Whether the thread is at work and has met with no failure of its own that is recorded. -/
def Phase.isSound : Phase → Bool
  | absent | leaving false | gone => false
  | _ => true

/-- Whether the thread is on its way out because of a failure that is not recorded yet. -/
def Phase.isBroken : Phase → Bool
  | failing _ | leaving true => true
  | _ => false

@[simp] theorem Phase.isSound_notified (p : Phase) : p.notified.isSound = p.isSound := by
  cases p <;> rfl

@[simp] theorem Phase.isBroken_notified (p : Phase) : p.notified.isBroken = p.isBroken := by
  cases p <;> rfl

namespace Machine

variable {σ δ : Type}

/-- A fault comes last: before it the thread was never there, or was at work. -/
structure Contained (m : Machine σ) : Prop where
  sound : m.phase.isSound = true ∨ m.shared.hasRenderer = true → m.shared.fault = none
  reason : m.shared.hasRenderer = false → m.shared.thread = .stopped →
    m.shared.isDead = true ∨ m.shared.fault.isSome = true

/-- A session without a fault, or one that is about to be recorded. If it ever had a render thread, it
still has. -/
structure Intact (m : Machine σ) : Prop where
  faultless : m.shared.fault = none
  unbroken : m.phase.isBroken = false
  runs : m.shared.hasRenderer = false → m.shared.isDead = false → m.shared.thread = .running

/-- Frames that are returned come back at once and are not shown, though the buffer stays in use. -/
structure TurnsFramesAway (m : Machine σ) : Prop where
  visible : ∀ ticket b, m.shared.slot.validate b = .ok () → m.shared.requested.isVisible = true →
    m.release ticket b =
      { m with shared := m.shared.checkIn, returned := (ticket, .error .shutDown) :: m.returned }
  hidden : ∀ ticket b, m.shared.slot.validate b = .ok () → m.shared.requested = .notVisible →
    m.release ticket b =
      { m with
        shared := { m.shared.checkIn with
          tally := { m.shared.tally with discarded := m.shared.tally.discarded + 1 } }
        returned := (ticket, .ok ()) :: m.returned }

theorem Contained.initial (info : DisplayInfo) (resource : UInt64) (shape : BufferShape)
    (renderer : σ) : Contained (Machine.fresh info resource shape renderer) := by
  constructor <;> simp [Machine.fresh, Session.new]

namespace Contained

variable {m m' : Machine σ}

theorem onward (h : Contained m) (phase : m'.phase.isSound = true → m.phase.isSound = true)
    (thread : m'.shared.thread = m.shared.thread)
    (renderer : m'.shared.hasRenderer = m.shared.hasRenderer)
    (dead : m.shared.isDead = true → m'.shared.isDead = true)
    (fault : m'.shared.fault = m.shared.fault) : Contained m' := by
  constructor
  · rw [renderer, fault]
    intro before
    exact h.sound (before.imp phase id)
  · rw [renderer, thread, fault]
    intro given stopped
    exact (h.reason given stopped).imp dead id

theorem advance (h : Contained m) (here : m.phase.isSound = true) (shared : m'.shared = m.shared) :
    Contained m' :=
  h.onward (fun _ => here) (by rw [shared]) (by rw [shared]) (fun dead => shared ▸ dead)
    (by rw [shared])

theorem intact_iff (h : Contained m) (life : Lifetime m) :
    Intact m ↔ m.shared.fault = none ∧ m.phase.isBroken = false := by
  constructor
  · rintro ⟨faultless, unbroken, _⟩
    exact ⟨faultless, unbroken⟩
  · rintro ⟨faultless, unbroken⟩
    refine ⟨faultless, unbroken, fun given alive => ?_⟩
    by_contra halted
    have reason := h.reason given (life.stopped_of_halted alive halted)
    simp [alive, faultless] at reason

end Contained

theorem turnsFramesAway_of_stopped {m : Machine σ} (stopped : m.shared.thread = .stopped) :
    TurnsFramesAway m := by
  have halted : m.shared.thread ≠ .running := by simp [stopped]
  constructor
  · intro ticket b valid visible
    simp [Machine.release, Session.release_of_off valid (.inr ⟨visible, halted⟩)]
  · intro ticket b valid hidden
    have alive : m.shared.isDead = false := by simp [Session.isDead, hidden]
    simp [Machine.release, Session.release_of_hidden valid alive (by rw [hidden]; rfl)]

theorem quiet_of_refused {m : Machine σ} {wanted : Visibility} {spawn : Spawn}
    (same : (m.setState wanted spawn).2 = m) : m.shared.creates wanted = false := by
  cases comes : m.shared.creates wanted with
  | false => rfl
  | true =>
    have present := ((Session.creates_iff wanted m.shared).mp comes).2.2
    have kept : (m.shared.setState wanted spawn).2 = m.shared := congrArg Machine.shared same
    have given := Session.hasRenderer_setState wanted spawn m.shared
    rw [kept, present, comes] at given
    contradiction

variable [Renderer σ] [Display δ] {m : Machine σ} {d : δ}

/-- Whether the step is the end of the render thread: it could not be created, its renderer could not be
started, or one of its calls has crashed. -/
def fatal (m : Machine σ) (d : δ) : Event δ → Bool
  | .setState wanted (.refused _) => m.shared.creates wanted
  | .work => match m.phase with
    | .starting shape => (Renderer.start shape m.renderer).1 ≠ .done
    | .composing frame => (Renderer.compose frame.buffer frame.layers m.renderer).1 = .crashed
    | .presenting frame => (Display.present m.resource frame d).1 = .crashed
    | _ => false
  | _ => false

theorem step_preserves_contained {e : Event δ} {c : Machine σ × δ} (life : Lifetime m)
    (h : Contained m) (move : Move m d e c) : Contained c.1 := by
  cases move with
  | request wanted spawn alive legal =>
    exact h.onward id rfl rfl (by simp [alive]) rfl
  | start wanted alive visible stopped sound present =>
    constructor <;> simp [sound]
  | startRefused wanted reason alive visible stopped sound present =>
    have absent := life.renderer_absent present
    constructor <;> simp [absent, Phase.isSound]
  | startCrashed wanted crash alive visible stopped sound present =>
    have absent := life.renderer_absent present
    constructor <;> simp [absent, Phase.isSound]
  | handOver => exact h.onward (by simp) rfl rfl id rfl
  | shutdownRunning | shutdownHalted =>
    constructor
    · simp only [wakeAll, Phase.isSound_notified]
      exact h.sound
    · simp [wakeAll, Session.isDead]
  | recordFault e here =>
    have given := life.rendererless (by simp [here])
    constructor <;> simp [Phase.isSound, Session.recordFault, given]
  | leave crashed here =>
    have given := life.rendererless (by simp [here])
    have left := (step_preserves_lifetime life (.leave (d := d) crashed here)).gone_reason rfl
    constructor
    · simp [wakeAll, Phase.notified, Phase.isSound, given]
    · exact fun _ _ => left
  | publish r here =>
    exact h.onward (by simp [here, Phase.isSound]) rfl rfl (by simp [wakeCallers]) rfl
  | collect => exact h.onward id (by simp) (by simp) (by simp) (by simp)
  | stop here => exact h.onward (by simp [Phase.isSound]) rfl rfl id rfl
  | take _ here | skip _ here => exact h.onward (by simp [here, Phase.isSound]) rfl rfl id rfl
  | begin here | started _ _ here | startFailed _ _ _ here | startBroke _ _ here | park here
  | composed _ _ here | composeFailed _ _ _ here | composeBroke _ _ here | presented _ _ here
  | presentFailed _ _ _ here | presentBroke _ _ here | strayWakeRender here =>
    exact h.advance (by simp [here, Phase.isSound]) rfl
  | _ => exact h.onward id rfl rfl id rfl

theorem step_keeps_recorded {e : Event δ} {c : Machine σ × δ} {fault : SessionError}
    (h : Contained m) (recorded : m.shared.fault = some fault) (move : Move m d e c) :
    c.1.shared.fault = some fault := by
  cases move with
  | startRefused _ _ _ _ _ sound => simp [sound] at recorded
  | recordFault e here =>
    have sound := h.sound (.inl (by simp [here, Phase.isSound]))
    simp [sound] at recorded
  | leave crashed => simp [wakeAll, Session.exit_fault, recorded]
  | collect => simpa using recorded
  | _ => exact recorded

theorem step_halts {e : Event δ} {c : Machine σ × δ} (life : Lifetime m)
    (running : m.shared.thread = .running) (move : Move m d e c)
    (halted : c.1.shared.thread ≠ .running) :
    c.1.shared.isDead = true ∨ c.1.shared.fault.isSome = true := by
  cases move with
  | startRefused _ _ _ _ stopped => simp [stopped] at running
  | shutdownRunning => exact .inl rfl
  | leave crashed here =>
    exact (step_preserves_lifetime life (.leave (d := d) crashed here)).gone_reason rfl
  | start | startCrashed => exact absurd rfl halted
  | collect => exact absurd (by simpa using running) halted
  | _ => exact absurd running halted

theorem step_calls_nothing {e : Event δ} {c : Machine σ × δ} (gone : m.phase = .gone)
    (move : Move m d e c) : c.1.calls = m.calls := by
  cases move with
  | begin here | take _ here | presented _ _ here | presentFailed _ _ _ here
  | presentBroke _ _ here => simp [here] at gone
  | _ => rfl

theorem trace_calls_nothing {c : Machine σ × δ} {es : List (Event δ)} (life : Lifetime c.1)
    (gone : c.1.phase = .gone) (valid : (system σ δ).Valid c es) :
    ((system σ δ).run c es).1.calls = c.1.calls := by
  induction es generalizing c with
  | nil => rfl
  | cons e es ih =>
    have move := next_move c.1 c.2 e valid.1
    have later := ih (step_preserves_lifetime life move) (step_keeps_gone life gone move) valid.2
    exact later.trans (step_calls_nothing gone move)

theorem trace_keeps_recorded {c : Machine σ × δ} {es : List (Event δ)} {fault : SessionError}
    (life : Lifetime c.1) (h : Contained c.1) (recorded : c.1.shared.fault = some fault)
    (valid : (system σ δ).Valid c es) :
    ((system σ δ).run c es).1.shared.fault = some fault := by
  induction es generalizing c with
  | nil => exact recorded
  | cons e es ih =>
    have move := next_move c.1 c.2 e valid.1
    exact ih (step_preserves_lifetime life move) (step_preserves_contained life h move)
      (step_keeps_recorded h recorded move) valid.2

theorem step_intact_iff {e : Event δ} (life : Lifetime m) (h : Contained m) (intact : Intact m)
    (enabled : m.Enabled e) : Intact (m.next d e).1 ↔ ¬ m.fatal d e = true := by
  have move := next_move m d e enabled
  have life' := step_preserves_lifetime life move
  have h' := step_preserves_contained life h move
  rw [h'.intact_iff life']
  have faultless := intact.faultless
  have unbroken := intact.unbroken
  generalize next : m.next d e = c at move
  cases move with
  | requestRefused wanted spawn =>
    have quiet : m.shared.creates wanted = false := quiet_of_refused (congrArg Prod.fst next)
    refine iff_of_true ⟨faultless, unbroken⟩ ?_
    cases spawn <;> simp [fatal, quiet]
  | request wanted spawn alive legal keeps =>
    refine iff_of_true ⟨faultless, unbroken⟩ ?_
    cases spawn <;> simp [fatal, Session.creates_iff, keeps]
  | startRefused wanted reason alive visible stopped sound present =>
    have starts := (Session.starts_iff wanted m.shared).mpr ⟨visible, stopped, sound⟩
    exact iff_of_false (by simp) (by simp [fatal, Session.creates_iff, alive, starts, present])
  | startFailed shape renderer reason here reply =>
    exact iff_of_false (by simp [Phase.isBroken]) (by simp [fatal, here, reply])
  | startBroke shape renderer here reply =>
    exact iff_of_false (by simp [Phase.isBroken]) (by simp [fatal, here, reply])
  | composeBroke frame renderer here reply =>
    exact iff_of_false (by simp [Phase.isBroken]) (by simp [fatal, here, reply])
  | presentBroke frame d' here reply =>
    exact iff_of_false (by simp [Phase.isBroken]) (by simp [fatal, here, reply])
  | recordFault e here => simp [here, Phase.isBroken] at unbroken
  | leave crashed here =>
    cases crashed with
    | true => simp [here, Phase.isBroken] at unbroken
    | false =>
      exact iff_of_true
        ⟨by simpa [wakeAll, Session.exit_fault] using faultless, by simp [wakeAll, Phase.notified, Phase.isBroken]⟩
        (by simp [fatal, here])
  | start wanted alive visible stopped sound present =>
    exact iff_of_true ⟨faultless, rfl⟩ (by simp [fatal])
  | startCrashed wanted crash alive visible stopped sound present =>
    exact iff_of_true ⟨faultless, unbroken⟩ (by simp [fatal])
  | started shape renderer here reply | composed frame renderer here reply
  | composeFailed frame renderer reason here reply | presented frame d' here reply
  | presentFailed frame d' reason here reply =>
    exact iff_of_true ⟨faultless, rfl⟩ (by simp [fatal, here, reply])
  | begin here | park here | stop here | take _ here | skip _ here | publish _ here =>
    exact iff_of_true ⟨faultless, rfl⟩ (by simp [fatal, here])
  | strayWakeRender here => exact iff_of_true ⟨faultless, rfl⟩ (by simp [fatal])
  | handOver | shutdownRunning | shutdownHalted =>
    exact iff_of_true ⟨faultless, by simpa [wakeAll] using unbroken⟩ (by simp [fatal])
  | collect => exact iff_of_true ⟨by simpa using faultless, unbroken⟩ (by simp [fatal])
  | _ => exact iff_of_true ⟨faultless, unbroken⟩ (by simp [fatal])

theorem reachable_contained {c₀ c : Machine σ × δ} (life : Lifetime c₀.1) (h₀ : Contained c₀.1)
    (h : (system σ δ).Reachable c₀ c) : Contained c.1 :=
  h.invariant (I := fun c => Contained c.1) h₀ fun c e hc contained he =>
    step_preserves_contained (reachable_lifetime life hc) contained (next_move c.1 c.2 e he)

/-- A fault ends the render thread and nothing else. The record of a thread that runs is changed by a
shutdown, or beside a fault; a fault stays the one that it is. After the thread has left, it makes no
calls and is not recorded as running again, and buffers come back at once. A session without a fault
stays one with every step but those in which the thread itself fails, so no frame that cannot be composed
or presented makes a fault. -/
theorem faults_are_contained (info : DisplayInfo) (resource : UInt64) (shape : BufferShape)
    (renderer : σ) (d : δ) {c : Machine σ × δ}
    (h : (system σ δ).Reachable (Machine.fresh info resource shape renderer, d) c) :
    (∀ e, c.1.Enabled e → c.1.shared.thread = .running →
      (c.1.next c.2 e).1.shared.thread ≠ .running →
        (c.1.next c.2 e).1.shared.isDead = true ∨ (c.1.next c.2 e).1.shared.fault.isSome = true) ∧
    (∀ fault, c.1.shared.fault = some fault →
      ∀ c', (system σ δ).Reachable c c' → c'.1.shared.fault = some fault) ∧
    (c.1.phase = .gone → ∀ c', (system σ δ).Reachable c c' →
      c'.1.calls = c.1.calls ∧ c'.1.shared.thread = .stopped ∧ TurnsFramesAway c'.1) ∧
    (∀ es, (system σ δ).Valid (Machine.fresh info resource shape renderer, d) es →
      ((system σ δ).Throughout (fun c => Intact c.1) (Machine.fresh info resource shape renderer, d) es ↔
        (system σ δ).Avoids (fun c e => c.1.fatal c.2 e = true)
          (Machine.fresh info resource shape renderer, d) es)) := by
  have life₀ := Lifetime.initial info resource shape renderer
  have contained₀ := Contained.initial info resource shape renderer
  have intact₀ := (contained₀.intact_iff life₀).mpr ⟨rfl, rfl⟩
  have life := reachable_lifetime life₀ h
  have contained := reachable_contained life₀ contained₀ h
  refine ⟨?_, ?_, ?_, ?_⟩
  · intro e enabled running halted
    exact step_halts life running (next_move c.1 c.2 e enabled) halted
  · rintro fault recorded c' ⟨es, valid, rfl⟩
    exact trace_keeps_recorded life contained recorded valid
  · rintro gone c' ⟨es, valid, rfl⟩
    have still := trace_keeps_gone life gone valid
    have stopped := (reachable_lifetime life ⟨es, valid, rfl⟩).gone_stopped still
    exact ⟨trace_calls_nothing life gone valid, stopped, turnsFramesAway_of_stopped stopped⟩
  · intro es valid
    exact System.throughout_iff_avoids (I := fun c => Lifetime c.1 ∧ Contained c.1)
      (fun c e h he =>
        have move := next_move c.1 c.2 e he
        ⟨step_preserves_lifetime h.1 move, step_preserves_contained h.1 h.2 move⟩)
      (fun c e h intact he => step_intact_iff h.1 h.2 intact he) ⟨life₀, contained₀⟩ intact₀ valid

/-- The renderer cannot compose one frame and crashes in the next. The first is no fault; after the second
the display is shown again, which starts no thread, and the buffer comes back at once. -/
theorem faults_are_contained_after_crash :
    let shape : BufferShape := ⟨4, 2, 1, .rgba8888, .none, 4⟩
    let buffer : Checkout := ⟨shape, 1, 1, []⟩
    let c₀ : Machine Rehearsal × HeadlessDisplay :=
      (Machine.fresh ⟨1, "panel", 4, 2, 0⟩ 1 shape
        { composeCues := [{ failure := ["no memory"] }, { crash := true }] }, { owner := some 1 })
    let es : List (Event HeadlessDisplay) :=
      [.setState .visible .started, .acquire, .release 0 buffer, .work, .work, .work, .work, .work,
        .resume 0, .acquire, .release 1 buffer]
    let fs : List (Event HeadlessDisplay) := [.work, .work, .work]
    let gs : List (Event HeadlessDisplay) :=
      [.resume 1, .setState .notVisible .started, .setState .visible .started, .acquire]
    let c₁ := (system Rehearsal HeadlessDisplay).run c₀ (es ++ fs)
    let c₂ := (system Rehearsal HeadlessDisplay).run c₁ gs
    (system Rehearsal HeadlessDisplay).Valid c₀ (es ++ fs) ∧
      (system Rehearsal HeadlessDisplay).Valid c₁ gs ∧
      (system Rehearsal HeadlessDisplay).Throughout (fun c => Intact c.1) c₀ es ∧
      c₁.1.shared.tally.composeFailures = 1 ∧ c₁.1.phase = .gone ∧
      c₂.1.shared.fault = some .renderThreadCrashed ∧ c₂.1.calls = c₁.1.calls ∧
      c₂.1.shared.requested = .visible ∧ c₂.1.shared.thread = .stopped ∧ TurnsFramesAway c₂.1 := by
  intro shape buffer c₀ es fs gs c₁ c₂
  have valid : (system Rehearsal HeadlessDisplay).Valid c₀ (es ++ fs) := by decide
  have later : (system Rehearsal HeadlessDisplay).Valid c₁ gs := by decide
  have gone : c₁.1.phase = .gone := by decide
  have reached : (system Rehearsal HeadlessDisplay).Reachable c₁ c₂ := ⟨gs, later, rfl⟩
  obtain ⟨-, keeps, contains, spared⟩ :=
    faults_are_contained _ _ _ _ _ ⟨es ++ fs, valid, show _ = c₁ from rfl⟩
  have intact := (spared es (by decide)).mpr (by decide)
  have kept := keeps .renderThreadCrashed (by decide) c₂ reached
  obtain ⟨calls, stopped, turns⟩ := contains gone c₂ reached
  exact ⟨valid, later, intact, by decide, gone, kept, calls, by decide, stopped, turns⟩

end Machine

end DisplaySurface
