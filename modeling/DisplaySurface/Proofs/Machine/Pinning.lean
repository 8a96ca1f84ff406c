import DisplaySurface.Bench.Rehearsal
import DisplaySurface.Proofs.Machine.Passing

/-!
The buffer under a frame. It can be replaced only where no frame is on its way, and nobody but the render
thread ends the way of a frame that was taken. So whatever the thread draws into or shows is the live
buffer, also when the caller of the frame has left.
-/

namespace DisplaySurface

def RenderCall.buffer? : RenderCall → Option LiveBuffer
  | start _ => none
  | compose buffer _ => some buffer
  | present frame => some frame.buffer

def Phase.buffer? : Phase → Option LiveBuffer
  | composing frame => some frame.buffer
  | presenting frame => some frame.buffer
  | _ => none

/-- A buffer that replaced another one has a greater fingerprint. -/
def LiveBuffer.NoLater (a b : LiveBuffer) : Prop :=
  a.fingerprint ≤ b.fingerprint ∧ (a.fingerprint = b.fingerprint → a = b)

theorem LiveBuffer.noLater_refl (b : LiveBuffer) : b.NoLater b :=
  ⟨Nat.le_refl _, fun _ => rfl⟩

theorem Slot.noLater_reallocate {s : Slot} {b : LiveBuffer} (h : b.NoLater s.live)
    (shape : BufferShape) : b.NoLater (s.reallocate shape).live := by
  have next : (s.reallocate shape).live.fingerprint = s.live.fingerprint + 1 := rfl
  have past := h.1
  constructor
  · omega
  · intro same
    omega

@[simp] theorem Phase.buffer?_notified (p : Phase) : p.notified.buffer? = p.buffer? := by
  cases p <;> rfl

theorem Phase.isDrawing_of_buffer? {p : Phase} {b : LiveBuffer} (h : p.buffer? = some b) :
    p.isDrawing = true := by
  cases p <;> simp_all [buffer?, isDrawing]

namespace Machine

variable {σ δ : Type}

def buffers (m : Machine σ) : List LiveBuffer :=
  m.calls.filterMap RenderCall.buffer?

/-- The frame on its way has the live buffer, and so had all frames while they were drawn. -/
structure Pinned (m : Machine σ) : Prop where
  ready : ∀ frame, m.shared.handoff = .ready frame → frame.buffer = m.shared.slot.live
  inCall : ∀ b, m.phase.buffer? = some b → b = m.shared.slot.live
  past : ∀ b ∈ m.buffers, b.NoLater m.shared.slot.live
  ordered : m.buffers.Pairwise fun later earlier => earlier.NoLater later

namespace Pinned

theorem initial (info : DisplayInfo) (resource : UInt64) (shape : BufferShape) (renderer : σ) :
    Pinned (Machine.fresh info resource shape renderer) := by
  constructor <;> simp [Machine.fresh, Session.new, Phase.buffer?, buffers]

variable {m m' : Machine σ}

theorem onward (h : Pinned m) (live : m'.shared.slot.live = m.shared.slot.live)
    (ready : ∀ frame, m'.shared.handoff = .ready frame →
      m.shared.handoff = .ready frame ∨ frame.buffer = m.shared.slot.live)
    (inCall : ∀ b, m'.phase.buffer? = some b →
      m.phase.buffer? = some b ∨ b = m.shared.slot.live)
    (calls : m'.buffers = m.buffers ∨ m'.buffers = m.shared.slot.live :: m.buffers) : Pinned m' := by
  constructor
  · intro frame now
    rw [live]
    exact (ready frame now).elim (h.ready frame) id
  · intro b now
    rw [live]
    exact (inCall b now).elim (h.inCall b) id
  · rw [live]
    rcases calls with same | more
    · rw [same]
      exact h.past
    · rw [more]
      exact List.forall_mem_cons.mpr ⟨LiveBuffer.noLater_refl _, h.past⟩
  · rcases calls with same | more
    · rw [same]
      exact h.ordered
    · rw [more]
      exact List.pairwise_cons.mpr ⟨h.past, h.ordered⟩

end Pinned

variable [Renderer σ] [Display δ] {m : Machine σ} {d : δ}

theorem step_preserves_pinned {e : Event δ} {c : Machine σ × δ} (passing : Passing m) (h : Pinned m)
    (move : Move m d e c) : Pinned c.1 := by
  cases move with
  | reallocate shape alive idle =>
    -- No frame is on its way, so there is none that the old buffer could be taken from.
    have undrawn := passing.undrawn_of_idle idle
    constructor
    · simp [idle]
    · intro b here
      simp [Phase.isDrawing_of_buffer? here] at undrawn
    · intro b drawn
      exact Slot.noLater_reallocate (h.past b drawn) shape
    · exact h.ordered
  | requestRefused | request | startRefused | startCrashed | acquireRefused | acquire | rejected
  | releasedIdle | discarded | offerRefused | reallocateRefused | shutdownAgain | waitOn | join
  | relinquish | strayWakeCaller | outside =>
    exact h.onward rfl (fun _ => .inl) (fun _ => .inl) (.inl rfl)
  | start | begin | started | startFailed | startBroke | recordFault | park | stop | composeFailed
  | composeBroke | strayWakeRender =>
    exact h.onward rfl (fun _ => .inl) (by simp [Phase.buffer?]) (.inl rfl)
  | handOver =>
    refine h.onward rfl (by simp) ?_ (.inl rfl)
    simp only [Phase.buffer?_notified]
    exact fun _ => .inl
  | shutdownRunning | shutdownHalted =>
    refine h.onward rfl (fun _ => .inl) ?_ (.inl rfl)
    simp only [wakeAll, Phase.buffer?_notified]
    exact fun _ => .inl
  | take frame here running ready =>
    have same := h.ready frame ready
    refine h.onward rfl (by simp) ?_ (.inr ?_)
    · simp [Phase.buffer?, same]
    · simp [buffers, RenderCall.buffer?, same]
  | skip => exact h.onward rfl (by simp) (by simp [Phase.buffer?]) (.inl rfl)
  | composed frame renderer here =>
    have same := h.inCall frame.buffer (by simp [here, Phase.buffer?])
    exact h.onward rfl (fun _ => .inl) (by simp [Phase.buffer?, same]) (.inl rfl)
  | presented frame d' here | presentFailed frame d' _ here | presentBroke frame d' here =>
    have same := h.inCall frame.buffer (by simp [here, Phase.buffer?])
    refine h.onward rfl (fun _ => .inl) (by simp [Phase.buffer?]) (.inr ?_)
    simp [buffers, RenderCall.buffer?, same]
  | publish r here =>
    have rendering := passing.drawing_rendering (by simp [here, Phase.isDrawing])
    have finished := Session.finishFrame_handoff rendering r
    exact h.onward rfl (by simp [wakeCallers, finished]) (by simp [wakeCallers, Phase.buffer?])
      (.inl rfl)
  | leave crashed =>
    refine h.onward ?_ ?_ ?_ (.inl rfl)
    · simp [wakeAll]
    · simp [wakeAll]
    · simp [wakeAll, Phase.notified, Phase.buffer?]
  | collect =>
    refine h.onward ?_ ?_ (fun _ => .inl) (.inl rfl)
    · simp [Slot.checkIn]
    · intro frame ready
      have empty := Handoff.withdraw_collect_isReady m.shared.handoff
      simp only [Session.collect_handoff] at ready
      simp [ready, Handoff.isReady] at empty

theorem fresh_pinned {info : DisplayInfo} {resource : UInt64} {shape : BufferShape} {renderer : σ}
    {c : Machine σ × δ}
    (h : (system σ δ).Reachable (Machine.fresh info resource shape renderer, d) c) : Pinned c.1 :=
  h.invariant (I := fun c => Pinned c.1) (Pinned.initial info resource shape renderer)
    fun c e hr hc he => step_preserves_pinned (fresh_passing hr).2 hc (next_move c.1 c.2 e he)

/-- A call of the render thread is made with the live buffer, and leaves it live. -/
theorem step_calls_live {e : Event δ} {c : Machine σ × δ} {call : RenderCall} {b : LiveBuffer}
    (h : Pinned m) (move : Move m d e c) (made : c.1.calls = call :: m.calls)
    (about : call.buffer? = some b) : b = m.shared.slot.live ∧ b = c.1.shared.slot.live := by
  cases move with
  | begin =>
    obtain rfl : call = _ := (List.cons.inj made).1.symm
    simp [RenderCall.buffer?] at about
  | take frame here running ready =>
    obtain rfl : call = _ := (List.cons.inj made).1.symm
    obtain rfl : frame.buffer = b := by simpa [RenderCall.buffer?] using about
    exact ⟨h.ready frame ready, h.ready frame ready⟩
  | presented frame d' here | presentFailed frame d' _ here | presentBroke frame d' here =>
    obtain rfl : call = _ := (List.cons.inj made).1.symm
    obtain rfl : frame.buffer = b := by simpa [RenderCall.buffer?] using about
    have same := h.inCall frame.buffer (by simp [here, Phase.buffer?])
    exact ⟨same, same⟩
  | _ => exact absurd made.symm (List.cons_ne_self call m.calls)

/-- While the render thread is in a call to compose or to present a frame, the buffer of that call is the
live buffer, from before the call is made until it is over. So the fingerprints of these calls never
decrease, and calls with one fingerprint have one and the same buffer. -/
theorem calls_have_live_buffer (info : DisplayInfo) (resource : UInt64) (shape : BufferShape)
    (renderer : σ) (d : δ) {c : Machine σ × δ}
    (h : (system σ δ).Reachable (Machine.fresh info resource shape renderer, d) c) :
    (∀ b, c.1.phase.buffer? = some b → b = c.1.shared.slot.live) ∧
    (∀ e, (system σ δ).Enabled c e → ∀ call, ((system σ δ).next c e).1.calls = call :: c.1.calls →
      ∀ b, call.buffer? = some b →
        b = c.1.shared.slot.live ∧ b = ((system σ δ).next c e).1.shared.slot.live) ∧
    (c.1.calls.filterMap RenderCall.buffer?).Pairwise fun later earlier =>
      earlier.fingerprint ≤ later.fingerprint ∧
        (earlier.fingerprint = later.fingerprint → earlier = later) := by
  have pinned := fresh_pinned h
  refine ⟨pinned.inCall, ?_, pinned.ordered⟩
  intro e enabled call made b about
  exact step_calls_live pinned (next_move c.1 c.2 e enabled) made about

/-- The buffer was replaced after the first frame, and the second frame is being composed. -/
theorem calls_have_live_buffer_second_frame :
    let small : BufferShape := ⟨4, 2, 1, .rgba8888, .none, 4⟩
    let wide : BufferShape := ⟨8, 2, 1, .rgba8888, .none, 8⟩
    let c₀ : Machine Rehearsal × HeadlessDisplay :=
      (Machine.fresh ⟨1, "panel", 4, 2, 0⟩ 1 small {}, {})
    let es : List (Event HeadlessDisplay) :=
      [.setState .visible .started, .acquire, .release 0 ⟨small, 1, 1, []⟩, .work, .work, .work, .work,
        .work, .work, .resume 0, .reallocate wide, .acquire, .release 1 ⟨wide, 2, 2, []⟩, .work]
    let c := (system Rehearsal HeadlessDisplay).run c₀ es
    (system Rehearsal HeadlessDisplay).Valid c₀ es ∧
      c.1.phase.buffer? = some ⟨wide, 2, 2⟩ ∧ ⟨wide, 2, 2⟩ = c.1.shared.slot.live := by
  intro small wide c₀ es c
  have valid : (system Rehearsal HeadlessDisplay).Valid c₀ es := by decide
  have here : c.1.phase.buffer? = some ⟨wide, 2, 2⟩ := by decide
  have reachable : (system Rehearsal HeadlessDisplay).Reachable c₀ c := ⟨es, valid, rfl⟩
  have all := calls_have_live_buffer _ _ _ _ _ reachable
  exact ⟨valid, here, all.1 _ here⟩

end Machine

end DisplaySurface
