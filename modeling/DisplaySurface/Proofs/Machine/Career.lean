import DisplaySurface.Bench.Rehearsal
import DisplaySurface.Proofs.Machine.Lifetime

/-!
The render thread's career. Callers ask for its start, a shutdown or the thread itself for its stop, and
the thread acknowledges its exit, or whoever could not create it does so in its place. The session's own
history tells of every event that was passed to the thread's life, also of those between which nobody
can look.
-/

namespace DisplaySurface

/-- The states that a life goes through with these events, if all of them are in order. -/
def Lifecycle.path? (l : Lifecycle) : List LifecycleEvent → Option (List Lifecycle)
  | [] => some [l]
  | e :: es => (l.after? e).bind fun next => (next.path? es).map (l :: ·)

def RenderCall.isStart : RenderCall → Bool
  | start _ => true
  | compose _ _ | present _ => false

def Phase.isFresh : Phase → Bool
  | absent | created => true
  | _ => false

@[simp] theorem Phase.isFresh_notified (p : Phase) : p.notified.isFresh = p.isFresh := by
  cases p <;> rfl

namespace Session

def lifeEvents (s : Session) : List LifecycleEvent :=
  (s.past.map (·.2)).reverse

/-- The states that the events met, and the present one. -/
def lifeStates (s : Session) : List Lifecycle :=
  (s.past.map (·.1)).reverse ++ [s.thread]

/-- Whether a request comes to creating a thread: then a crash in creating it is a crash of the request. -/
def creates (wanted : Visibility) (s : Session) : Bool :=
  (s.setState wanted (.crashed .capacityOverflow)).1.isCrash

theorem creates_iff (wanted : Visibility) (s : Session) : s.creates wanted = true ↔
    s.isDead = false ∧ s.starts wanted = true ∧ s.hasRenderer = true := by
  by_cases legal : wanted = .dead
  · subst legal
    simp [creates, setState, starts, Visibility.isVisible, Ending.isCrash]
  · cases dead : s.isDead with
    | true => simp [creates, setState, legal, dead, Ending.isCrash]
    | false =>
      cases begins : s.starts wanted with
      | false => simp [creates, setState, legal, dead, begins, Ending.isCrash]
      | true =>
        have stopped := ((starts_iff wanted s).mp begins).2.1
        cases present : s.hasRenderer <;>
          simp [creates, setState, startThread, Lifecycle.transition, Lifecycle.after?, legal, dead,
            begins, stopped, present, Ending.isCrash]

/-- What creating a thread comes to matters to no other request. -/
theorem setState_of_not_creates {wanted : Visibility} {s : Session} (quiet : s.creates wanted = false)
    (spawn spawn' : Spawn) : s.setState wanted spawn = s.setState wanted spawn' := by
  unfold setState
  split
  · rfl
  · cases dead : s.isDead with
    | true => rfl
    | false =>
      cases begins : s.starts wanted with
      | false => rfl
      | true =>
        have gone : s.hasRenderer = false := by
          simpa [dead, begins, quiet] using (creates_iff wanted s).symm
        have stopped := ((starts_iff wanted s).mp begins).2.1
        simp [startThread, Lifecycle.transition, Lifecycle.after?, stopped, gone]

/-- Who creates a thread gives the renderer away, whatever comes of it, and nobody else does. -/
theorem hasRenderer_setState (wanted : Visibility) (spawn : Spawn) (s : Session) :
    (s.setState wanted spawn).2.hasRenderer = (s.hasRenderer && !s.creates wanted) := by
  cases comes : s.creates wanted with
  | true =>
    obtain ⟨alive, begins, present⟩ := (creates_iff wanted s).mp comes
    obtain ⟨visible, stopped, _⟩ := (starts_iff wanted s).mp begins
    have legal := Visibility.ne_dead_of_isVisible visible
    cases spawn <;>
      simp [setState, startThread, Lifecycle.transition, Lifecycle.after?, legal, alive, begins, stopped,
        present, apply]
  | false =>
    unfold setState
    split
    · simp
    · split
      · simp
      · rename_i alive
        split
        · rename_i begins
          have gone : s.hasRenderer = false := by
            simpa [alive, begins, comes] using (creates_iff wanted s).symm
          have stopped := ((starts_iff wanted s).mp begins).2.1
          simp [startThread, Lifecycle.transition, Lifecycle.after?, stopped, gone]
        · simp

theorem setState_error {wanted : Visibility} {spawn : Spawn} {s : Session} {e : SessionError}
    (present : s.isDead = false → s.starts wanted = true → s.hasRenderer = true)
    (h : (s.setState wanted spawn).1 = .returned (.error e)) : e = .deadRequested ∨ e = .sessionDead ∨
      ∃ reason, spawn = .refused reason ∧ e = .spawnFailed reason := by
  unfold setState at h
  split at h
  · cases h
    exact .inl rfl
  · cases dead : s.isDead with
    | true =>
      simp only [dead, if_true] at h
      cases h
      exact .inr (.inl rfl)
    | false =>
      cases begins : s.starts wanted with
      | false => simp [dead, begins] at h
      | true =>
        have present := present dead begins
        have stopped := ((starts_iff wanted s).mp begins).2.1
        cases spawn with
        | started | crashed =>
          simp [startThread, Lifecycle.transition, Lifecycle.after?, dead, begins, stopped, present] at h
        | refused reason =>
          simp only [startThread, Lifecycle.transition, Lifecycle.after?, dead, begins, stopped,
            present] at h
          cases h
          exact .inr (.inr ⟨reason, rfl, rfl⟩)

end Session

namespace Machine

variable {σ δ : Type}

def creates (m : Machine σ) : Event δ → Bool
  | .setState wanted _ => m.shared.creates wanted
  | _ => false

/-- A session at work beside its display, and how often a thread was created, or tried to be. -/
def watched (σ δ : Type) [Renderer σ] [Display δ] : System ((Machine σ × δ) × Nat) (Event δ) :=
  (system σ δ).observed (fun c e k => k + (c.1.creates e).toNat) fun _ _ => True

instance [Renderer σ] [Display δ] (c : (Machine σ × δ) × Nat) (e : Event δ) :
    Decidable ((watched σ δ).Enabled c e) :=
  inferInstanceAs (Decidable ((system σ δ).Enabled c.1 e ∧ True))

/-- How far the thread has come. Who is through with it has a reason not to begin anew. -/
inductive Stage (m : Machine σ) : Prop where
  | before (present : m.shared.hasRenderer = true) (stopped : m.shared.thread = .stopped)
      (past : m.shared.past = [])
  | during (given : m.shared.hasRenderer = false) (running : m.shared.thread = .running)
      (past : m.shared.past = [(.stopped, .start)])
  | ending (given : m.shared.hasRenderer = false) (stopping : m.shared.thread = .stopping)
      (past : m.shared.past = [(.running, .stop), (.stopped, .start)])
  | after (given : m.shared.hasRenderer = false) (stopped : m.shared.thread = .stopped)
      (past : m.shared.past = [(.stopping, .exited), (.running, .stop), (.stopped, .start)])
      (reason : m.shared.isDead = true ∨ m.shared.fault.isSome = true)

namespace Stage

variable {m m' : Machine σ}

theorem onward (h : Stage m) (past : m'.shared.past = m.shared.past)
    (thread : m'.shared.thread = m.shared.thread)
    (renderer : m'.shared.hasRenderer = m.shared.hasRenderer)
    (dead : m.shared.isDead = true → m'.shared.isDead = true)
    (fault : m.shared.fault.isSome = true → m'.shared.fault.isSome = true) : Stage m' := by
  cases h with
  | before present stopped none => exact .before (renderer ▸ present) (thread ▸ stopped) (past ▸ none)
  | during given running begun => exact .during (renderer ▸ given) (thread ▸ running) (past ▸ begun)
  | ending given stopping ends => exact .ending (renderer ▸ given) (thread ▸ stopping) (past ▸ ends)
  | after given stopped all reason =>
    exact .after (renderer ▸ given) (thread ▸ stopped) (past ▸ all) (reason.imp dead fault)

/-- A session that would start its thread has never done so. -/
theorem present_of_starts {wanted : Visibility} (h : Stage m) (alive : m.shared.isDead = false)
    (starts : m.shared.starts wanted = true) : m.shared.hasRenderer = true := by
  obtain ⟨_, stopped, sound⟩ := (Session.starts_iff wanted m.shared).mp starts
  cases h with
  | before present => exact present
  | during _ running => simp [running] at stopped
  | ending _ stopping => simp [stopping] at stopped
  | after _ _ _ reason => simp [alive, sound] at reason

theorem past_of_present (h : Stage m) (present : m.shared.hasRenderer = true) : m.shared.past = [] := by
  cases h with
  | before _ _ none => exact none
  | during given | ending given | after given => simp [present] at given

theorem path (h : Stage m) :
    Lifecycle.stopped.path? m.shared.lifeEvents = some m.shared.lifeStates ∧
      m.shared.lifeStates <+: [.stopped, .running, .stopping, .stopped] := by
  cases h with
  | before _ thread past | during _ thread past | ending _ thread past | after _ thread past =>
    simp only [Session.lifeEvents, Session.lifeStates, past, thread]
    decide

theorem unrefused (h : Stage m) : ∀ met ∈ m.shared.past, met.1.after? met.2 ≠ none := by
  cases h with
  | before _ _ past | during _ _ past | ending _ _ past | after _ _ past =>
    rw [past]
    decide

end Stage

/-- The renderer was not started yet, or that was the first of all calls and came only once. -/
inductive Opened (m : Machine σ) : Prop where
  | unopened (none : m.calls = []) (here : m.phase.isFresh = true)
  | opened (later shape) (calls : m.calls = later ++ [.start shape])
      (others : ∀ call ∈ later, call.isStart = false) (there : m.phase.isFresh = false)

namespace Opened

variable {m m' : Machine σ}

theorem onward (h : Opened m) (calls : m'.calls = m.calls) (phase : m'.phase.isFresh = m.phase.isFresh) :
    Opened m' := by
  cases h with
  | unopened none here => exact .unopened (calls ▸ none) (phase ▸ here)
  | opened later shape before others there =>
    exact .opened later shape (calls ▸ before) others (phase ▸ there)

theorem call (h : Opened m) (new : List RenderCall) (under : m.phase.isFresh = false)
    (other : ∀ call ∈ new, call.isStart = false) (calls : m'.calls = new ++ m.calls)
    (phase : m'.phase.isFresh = false) : Opened m' := by
  cases h with
  | unopened _ here => simp [under] at here
  | opened later shape before others =>
    refine .opened (new ++ later) shape (by rw [calls, before, List.append_assoc]) ?_ phase
    intro call hc
    exact (List.mem_append.mp hc).elim (other call) (others call)

theorem count_le (h : Opened m) : m.calls.countP RenderCall.isStart ≤ 1 := by
  cases h with
  | unopened none => simp [none]
  | opened later shape calls others =>
    have none : later.countP RenderCall.isStart = 0 := by
      rw [List.countP_eq_zero]
      intro call hc
      simp [others call hc]
    simp [calls, none, RenderCall.isStart]

theorem start_before (h : Opened m) {newer older : List RenderCall} {call : RenderCall}
    (other : call.isStart = false) (split : m.calls = newer ++ call :: older) :
    ∃ shape, .start shape ∈ older := by
  cases h with
  | unopened none => simp [none] at split
  | opened later shape calls =>
    rcases List.eq_nil_or_concat older with rfl | ⟨rest, first, rfl⟩
    · obtain ⟨_, last⟩ := List.append_inj' (calls.symm.trans split) rfl
      obtain rfl : RenderCall.start shape = call := by simpa using last
      cases other
    · have same : later ++ [.start shape] = (newer ++ call :: rest) ++ [first] := by
        rw [← calls, split]
        simp
      obtain ⟨_, last⟩ := List.append_inj' same rfl
      obtain rfl : RenderCall.start shape = first := by simpa using last
      exact ⟨shape, by simp⟩

end Opened

variable [Renderer σ] [Display δ] {m : Machine σ} {d : δ}

theorem step_preserves_opened {e : Event δ} {c : Machine σ × δ} (life : Lifetime m) (h : Opened m)
    (move : Move m d e c) : Opened c.1 := by
  cases move with
  | start _ _ _ _ _ present =>
    have absent := life.renderer_absent present
    exact h.onward rfl (by simp [absent, Phase.isFresh])
  | begin here =>
    cases h with
    | unopened none => exact .opened [] m.shared.slot.live.shape (by simp [none]) (by simp) rfl
    | opened _ _ _ _ there => simp [here, Phase.isFresh] at there
  | take _ here | presented _ _ here | presentFailed _ _ _ here | presentBroke _ _ here =>
    exact h.call [_] (by simp [here, Phase.isFresh]) (by simp [RenderCall.isStart]) rfl rfl
  | started _ _ here | startFailed _ _ _ here | startBroke _ _ here | recordFault _ here | park here
  | stop here | skip _ here | composed _ _ here | composeFailed _ _ _ here | composeBroke _ _ here
  | publish _ here | leave _ here | strayWakeRender here =>
    exact h.onward rfl (by simp [here, wakeAll, wakeCallers, Phase.notified, Phase.isFresh])
  | handOver | shutdownRunning | shutdownHalted => exact h.onward rfl (by simp [wakeAll])
  | _ => exact h.onward rfl rfl

theorem step_preserves_stage {e : Event δ} {c : Machine σ × δ} (life : Lifetime m) (h : Stage m)
    (move : Move m d e c) : Stage c.1 := by
  cases move with
  | request _ _ alive => exact h.onward rfl rfl rfl (by simp [alive]) id
  | start _ _ _ _ _ present | startCrashed _ _ _ _ _ _ present =>
    exact .during rfl rfl (by simp [h.past_of_present present])
  | startRefused _ _ _ _ _ _ present =>
    exact .after rfl rfl (by simp [h.past_of_present present]) (.inr rfl)
  | shutdownRunning alive running =>
    cases h with
    | during given _ begun => exact .ending given rfl (by simp [wakeAll, begun])
    | before _ halted | ending _ halted | after _ halted => simp [running] at halted
  | shutdownHalted => exact h.onward rfl rfl rfl (fun _ => rfl) id
  | leave crashed here =>
    have recorded := life.not_stopped (by simp [here, Phase.isOver])
    have left := (step_preserves_lifetime life (.leave (d := d) crashed here)).gone_reason rfl
    have stopped : (m.shared.exit crashed).thread = .stopped := Session.exit_thread crashed m.shared
    cases h with
    | before _ thread | after _ thread => exact absurd thread recorded
    | during given thread past | ending given thread past =>
      refine .after (by simpa [wakeAll] using given) stopped ?_ left
      simp [wakeAll, Session.exit_eq, Session.exitPast, thread, past]
  | publish r here => exact h.onward rfl rfl rfl (by simp [wakeCallers]) id
  | recordFault => exact h.onward rfl rfl rfl id (fun _ => rfl)
  | collect => exact h.onward (by simp) (by simp) (by simp) (by simp) (by simp)
  | _ => exact h.onward rfl rfl rfl id id

theorem reachable_stage (info : DisplayInfo) (resource : UInt64) (shape : BufferShape) (renderer : σ)
    (d : δ) {c : Machine σ × δ}
    (h : (system σ δ).Reachable (Machine.fresh info resource shape renderer, d) c) : Stage c.1 :=
  h.invariant (I := fun c => Stage c.1) (.before rfl rfl rfl) fun c e reached stage enabled =>
    step_preserves_stage (reachable_lifetime (Lifetime.initial info resource shape renderer) reached) stage
      (next_move c.1 c.2 e enabled)

theorem reachable_opened (info : DisplayInfo) (resource : UInt64) (shape : BufferShape) (renderer : σ)
    (d : δ) {c : Machine σ × δ}
    (h : (system σ δ).Reachable (Machine.fresh info resource shape renderer, d) c) : Opened c.1 :=
  h.invariant (I := fun c => Opened c.1) (.unopened rfl rfl) fun c e reached opened enabled =>
    step_preserves_opened (reachable_lifetime (Lifetime.initial info resource shape renderer) reached)
      opened (next_move c.1 c.2 e enabled)

theorem step_hasRenderer {e : Event δ} (enabled : m.Enabled e) :
    (m.next d e).1.shared.hasRenderer = (m.shared.hasRenderer && !m.creates e) := by
  cases e with
  | setState wanted spawn => exact Session.hasRenderer_setState wanted spawn m.shared
  | _ =>
    have move := next_move m d _ enabled
    generalize m.next d _ = c at move
    cases move <;> simp [creates, wakeAll, wakeCallers, Session.recordFault, Session.finishFrame,
      Session.checkIn]

theorem step_counts {e : Event δ} {k : Nat} (enabled : m.Enabled e)
    (counted : k = if m.shared.hasRenderer then 0 else 1) :
    k + (m.creates e).toNat = if (m.next d e).1.shared.hasRenderer then 0 else 1 := by
  rw [step_hasRenderer enabled, counted]
  cases comes : m.creates e with
  | false => simp
  | true =>
    have present : m.shared.hasRenderer = true := by
      cases e with
      | setState wanted => exact ((Session.creates_iff wanted m.shared).mp comes).2.2
      | _ => cases comes
    simp [present]

/-- A thread is created once at most, or tried to be, and its renderer is started once at most and before
it draws. No event that was passed to its life was ever refused: it has been through a beginning of
stopped, running, stopping, stopped. So a request fails only where a dead session was asked for or found,
or the thread was not granted, and only the request that is counted depends on that. -/
theorem thread_starts_once (info : DisplayInfo) (resource : UInt64) (shape : BufferShape)
    (renderer : σ) (d : δ) {c : (Machine σ × δ) × Nat}
    (h : (watched σ δ).Reachable ((Machine.fresh info resource shape renderer, d), 0) c) :
    let s := c.1.1.shared
    c.2 ≤ 1 ∧ c.2 = (if s.hasRenderer then 0 else 1) ∧
    (∀ wanted, s.creates wanted = false → ∀ spawn spawn',
      s.setState wanted spawn = s.setState wanted spawn') ∧
    c.1.1.calls.countP RenderCall.isStart ≤ 1 ∧
    (∀ newer buffer layers older, c.1.1.calls = newer ++ .compose buffer layers :: older →
      ∃ shape, .start shape ∈ older) ∧
    (∀ met ∈ s.past, met.1.after? met.2 ≠ none) ∧
    Lifecycle.stopped.path? s.lifeEvents = some s.lifeStates ∧
    s.lifeStates <+: [.stopped, .running, .stopping, .stopped] ∧
    (∀ wanted spawn e, (s.setState wanted spawn).1 = .returned (.error e) →
      e = .deadRequested ∨ e = .sessionDead ∨
        ∃ reason, spawn = .refused reason ∧ e = .spawnFailed reason) := by
  intro s
  have opened := reachable_opened info resource shape renderer d h.of_observed
  have stage := reachable_stage info resource shape renderer d h.of_observed
  have counted : c.2 = if c.1.1.shared.hasRenderer then 0 else 1 :=
    h.invariant (I := fun c => c.2 = if c.1.1.shared.hasRenderer then 0 else 1) rfl
      fun _ _ _ counted enabled => step_counts enabled.1 counted
  refine ⟨?_, counted, ?_, opened.count_le, ?_, stage.unrefused, stage.path.1, stage.path.2, ?_⟩
  · rw [counted]
    split <;> omega
  · intro wanted quiet spawn spawn'
    exact Session.setState_of_not_creates quiet spawn spawn'
  · intro newer buffer layers older split
    exact opened.start_before rfl split
  · intro wanted spawn e error
    exact Session.setState_error stage.present_of_starts error

/-- The renderer could not be started, and a second request does not try again. -/
theorem thread_starts_once_failed_start :
    let c₀ : (Machine Rehearsal × HeadlessDisplay) × Nat :=
      ((Machine.fresh ⟨1, "panel", 4, 2, 0⟩ 1 ⟨4, 2, 1, .rgba8888, .none, 4⟩
        { startCue := { failure := ["no device"] } }, {}), 0)
    let es : List (Event HeadlessDisplay) :=
      [.setState .visible .started, .work, .work, .work, .work, .setState .visible .started]
    let c := (watched Rehearsal HeadlessDisplay).run c₀ es
    (watched Rehearsal HeadlessDisplay).Valid c₀ es ∧ c.1.1.shared.requested = .visible ∧
      c.2 = 1 ∧ c.1.1.shared.lifeEvents = [.start, .stop, .exited] ∧
      (∀ met ∈ c.1.1.shared.past, met.1.after? met.2 ≠ none) := by
  intro c₀ es c
  have valid : (watched Rehearsal HeadlessDisplay).Valid c₀ es := by decide
  have once := thread_starts_once _ _ _ _ _ ⟨es, valid, rfl⟩
  exact ⟨valid, by decide, by decide, by decide, once.2.2.2.2.2.1⟩

end Machine

end DisplaySurface
