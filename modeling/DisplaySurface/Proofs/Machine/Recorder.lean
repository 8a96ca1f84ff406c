import DisplaySurface.Proofs.Machine.Passing

/-!
What the renderer and the display are asked. A recorder stands in the place of each, writes down every
call, and passes it on. What it has written is compared with what the session remembers: with the calls
of the render thread, and with how far its shutdown has come.
-/

namespace DisplaySurface

inductive DisplayRequest where
  | present (resource : UInt64) (frame : Frame)
  | release (id : UInt64)
  deriving DecidableEq, Repr

def DisplayRequest.isRelease : DisplayRequest → Bool
  | release _ => true
  | present _ _ => false

namespace RenderCall

def isRendering : RenderCall → Bool
  | start _ | compose _ _ => true
  | present _ => false

def toRequest? (resource : UInt64) : RenderCall → Option DisplayRequest
  | present frame => some (.present resource frame)
  | start _ | compose _ _ => none

theorem toRequest?_of_isRendering {call : RenderCall} (rendering : call.isRendering = true)
    (resource : UInt64) : call.toRequest? resource = none := by
  cases call with
  | start | compose => rfl
  | present => cases rendering

theorem not_isRelease_of_mem {resource : UInt64} {calls : List RenderCall} {asked : DisplayRequest}
    (made : asked ∈ calls.filterMap (toRequest? resource)) : asked.isRelease = false := by
  obtain ⟨call, _, same⟩ := List.mem_filterMap.mp made
  cases call <;> cases same
  rfl

end RenderCall

/-- `asked` is a history, the latest first. -/
structure Recording (α κ : Type) where
  inner : α
  asked : List κ := []

variable {σ δ : Type}

instance [Renderer σ] : Renderer (Recording σ RenderCall) where
  start shape r :=
    ((Renderer.start shape r.inner).1, ⟨(Renderer.start shape r.inner).2, .start shape :: r.asked⟩)
  compose buffer layers r :=
    ((Renderer.compose buffer layers r.inner).1,
      ⟨(Renderer.compose buffer layers r.inner).2, .compose buffer layers :: r.asked⟩)

instance [Display δ] : Display (Recording δ DisplayRequest) where
  present resource frame r :=
    ((Display.present resource frame r.inner).1,
      ⟨(Display.present resource frame r.inner).2, .present resource frame :: r.asked⟩)
  release id r := ⟨Display.release id r.inner, .release id :: r.asked⟩

structure Log where
  renderer : List RenderCall := []
  display : List DisplayRequest := []

/-- A call to the renderer that the thread has set out to make. -/
def Phase.asking : Phase → List RenderCall
  | starting shape => [.start shape]
  | composing frame => [.compose frame.buffer frame.layers]
  | _ => []

@[simp] theorem Phase.asking_notified (p : Phase) : p.notified.asking = p.asking := by
  cases p <;> rfl

/-- What the display is asked by a shutdown that has come so far. -/
def Closing.asked (id : UInt64) : Closing → List DisplayRequest
  | closed => [.release id]
  | notYet | joining | relinquishing => []

/-- The event as it is where a recorder stands before the display; others do not write in its log. -/
def Event.recording (log : List DisplayRequest) : Event δ → Event (Recording δ DisplayRequest)
  | .setState wanted spawn => .setState wanted spawn
  | .acquire => .acquire
  | .release ticket c => .release ticket c
  | .reallocate shape => .reallocate shape
  | .shutdown => .shutdown
  | .work => .work
  | .resume ticket => .resume ticket
  | .join => .join
  | .relinquish => .relinquish
  | .strayWakeRender => .strayWakeRender
  | .strayWakeCaller ticket => .strayWakeCaller ticket
  | .outside d => .outside ⟨d, log⟩

namespace Machine

def recording (log : List RenderCall) (m : Machine σ) : Machine (Recording σ RenderCall) :=
  { m with renderer := ⟨m.renderer, log⟩ }

end Machine

/-- What is written after an event: the session makes the same step with recorders. -/
def Log.noted [Renderer σ] [Display δ] (m : Machine σ) (d : δ) (e : Event δ) (log : Log) : Log :=
  let c := (m.recording log.renderer).next ⟨d, log.display⟩ (e.recording log.display)
  ⟨c.1.renderer.asked, c.2.asked⟩

namespace Machine

def unrecorded (c : Machine (Recording σ RenderCall) × Recording δ DisplayRequest) : Machine σ × δ :=
  ({ c.1 with renderer := c.1.renderer.inner }, c.2.inner)

def asks (m : Machine σ) : Event δ → Bool
  | .relinquish => true
  | .work => match m.phase with
    | .starting _ | .composing _ | .presenting _ => true
    | _ => false
  | _ => false

variable [Renderer σ] [Display δ] {m : Machine σ} {d : δ} {e : Event δ} {log : Log}

theorem next_of_quiet (quiet : m.asks e = false) (log : Log) :
    (m.recording log.renderer).next ⟨d, log.display⟩ (e.recording log.display) =
      ((m.next d e).1.recording log.renderer, ⟨(m.next d e).2, log.display⟩) := by
  have shared : (m.recording log.renderer).shared = m.shared := rfl
  cases e with
  | work =>
    have same : (m.recording log.renderer).phase = m.phase := rfl
    cases here : m.phase with
    | starting | composing | presenting => simp [asks, here] at quiet
    | seeking =>
      rcases found : m.shared.nextFrame with ⟨_ | _ | ⟨frame, requested⟩, _⟩
      · simp only [Machine.next, Event.recording, Machine.work, same, shared, here, found]
        rfl
      · simp only [Machine.next, Event.recording, Machine.work, same, shared, here, found]
        rfl
      · cases visible : requested.isVisible
        all_goals
          simp only [Machine.next, Event.recording, Machine.work, same, shared, here, found, visible]
          rfl
    | absent | parked | gone => simp only [Machine.next, Event.recording, Machine.work, same, here]
    | _ =>
      simp only [Machine.next, Event.recording, Machine.work, same, here]
      rfl
  | relinquish => cases quiet
  | release ticket b =>
    rcases first : m.shared.release b with ⟨_ | _, _⟩
    all_goals
      simp only [Machine.next, Event.recording, Machine.release, shared, first]
      rfl
  | resume ticket =>
    cases waits : m.shared.mustWait && !m.poisoned
    all_goals
      simp only [Machine.next, Event.recording, Machine.resume, recording, waits]
      rfl
  | shutdown =>
    cases begun : m.shared.beginShutdown? with
    | none => simp only [Machine.next, Event.recording, Machine.shutdown, shared, begun]
    | some =>
      simp only [Machine.next, Event.recording, Machine.shutdown, shared, begun]
      rfl
  | _ => rfl

end Machine

namespace Log

variable [Renderer σ] [Display δ] {m : Machine σ} {d : δ} {e : Event δ} {log : Log}

theorem noted_of_quiet (quiet : m.asks e = false) : log.noted m d e = log := by
  simp only [noted, Machine.next_of_quiet quiet]
  rfl

theorem noted_of_starting {shape : BufferShape} (here : m.phase = .starting shape) :
    log.noted m d .work = { log with renderer := .start shape :: log.renderer } := by
  simp only [noted, Machine.next, Event.recording, Machine.work, Machine.recording, here]
  rfl

theorem noted_of_composing {frame : Submission} (here : m.phase = .composing frame) :
    log.noted m d .work =
      { log with renderer := .compose frame.buffer frame.layers :: log.renderer } := by
  rcases reply : Renderer.compose frame.buffer frame.layers m.renderer with ⟨_ | _ | _, _⟩
  all_goals
    simp only [noted, Machine.next, Event.recording, Machine.work, Machine.recording, here,
      Renderer.compose, reply]

theorem noted_of_presenting {frame : Frame} (here : m.phase = .presenting frame) :
    log.noted m d .work = { log with display := .present m.resource frame :: log.display } := by
  simp only [noted, Machine.next, Event.recording, Machine.work, Machine.recording, here]
  rfl

theorem noted_relinquish : log.noted m d .relinquish =
    { log with display := .release m.info.id :: log.display } := rfl

end Log

namespace Machine

section Recorded

variable [Renderer σ] [Display δ] {m : Machine σ} {d : δ}

/-- The recorders change nothing. -/
theorem next_recording (m : Machine σ) (d : δ) (e : Event δ) (log : Log) :
    unrecorded ((m.recording log.renderer).next ⟨d, log.display⟩ (e.recording log.display)) =
      m.next d e := by
  cases asks : m.asks e with
  | false =>
    rw [next_of_quiet asks]
    rfl
  | true => cases e with
    | relinquish => rfl
    | work =>
      have same : (m.recording log.renderer).phase = m.phase := rfl
      cases here : m.phase with
      | composing frame =>
        rcases reply : Renderer.compose frame.buffer frame.layers m.renderer with ⟨_ | _ | _, _⟩
        all_goals
          simp only [Machine.next, Event.recording, Machine.work, here, recording, Renderer.compose,
            reply]
          rfl
      | starting | presenting =>
        simp only [Machine.next, Event.recording, Machine.work, same, here]
        rfl
      | _ => simp [Machine.asks, here] at asks
    | _ => cases asks

def recorded (σ δ : Type) [Renderer σ] [Display δ] : System ((Machine σ × δ) × Log) (Event δ) :=
  (system σ δ).observed (fun c e log => log.noted c.1 c.2 e) fun _ _ => True

instance (c : (Machine σ × δ) × Log) (e : Event δ) : Decidable ((recorded σ δ).Enabled c e) :=
  inferInstanceAs (Decidable ((system σ δ).Enabled c.1 e ∧ True))

theorem run_recorded (c : (Machine σ × δ) × Log) (es : List (Event δ)) :
    ((recorded σ δ).run c es).1 = (system σ δ).run c.1 es :=
  System.run_observed (system σ δ) (fun c e (log : Log) => log.noted c.1 c.2 e) (fun _ _ => True) c es

end Recorded

structure Winding (m : Machine σ) : Prop where
  dead_iff : m.shared.isDead = true ↔ m.closing ≠ .notYet
  left : m.closing = .relinquishing ∨ m.closing = .closed → m.phase.isOver = true

/-- How what was asked stands to what the session remembers. A call to the renderer is remembered when the
thread sets out to make it, a call to the display when it is made. -/
structure Logged (m : Machine σ) (log : Log) : Prop where
  renderer : m.calls.filter RenderCall.isRendering = m.phase.asking ++ log.renderer
  display : log.display =
    m.closing.asked m.info.id ++ m.calls.filterMap (RenderCall.toRequest? m.resource)

theorem Winding.initial (info : DisplayInfo) (resource : UInt64) (shape : BufferShape)
    (renderer : σ) : Winding (Machine.fresh info resource shape renderer) := by
  constructor <;> simp [Machine.fresh, Session.new, Session.isDead]

theorem Winding.alive_notYet {m : Machine σ} (h : Winding m) (alive : m.shared.isDead = false) :
    m.closing = .notYet := by
  cases stage : m.closing with
  | notYet => rfl
  | joining | relinquishing | closed =>
    have dead := h.dead_iff.mpr (by simp [stage])
    simp [alive] at dead

theorem Winding.unasked {m : Machine σ} (h : Winding m) (there : m.phase.isOver = false) :
    m.closing.asked m.info.id = [] := by
  cases stage : m.closing with
  | closed => simp [h.left (.inr stage)] at there
  | notYet | joining | relinquishing => rfl

theorem Logged.initial (info : DisplayInfo) (resource : UInt64) (shape : BufferShape) (renderer : σ) :
    Logged (Machine.fresh info resource shape renderer) {} :=
  ⟨rfl, rfl⟩

variable {m m' : Machine σ} {d : δ} {log : Log}

theorem Logged.onward (h : Logged m log) (calls : m'.calls = m.calls)
    (asking : m'.phase.asking = m.phase.asking)
    (asked : m'.closing.asked m'.info.id = m.closing.asked m.info.id)
    (resource : m'.resource = m.resource) : Logged m' log := by
  constructor
  · rw [calls, asking]
    exact h.renderer
  · rw [asked, calls, resource]
    exact h.display

theorem Logged.setOut (h : Logged m log) {call : RenderCall} (rendering : call.isRendering = true)
    (calls : m'.calls = call :: m.calls) (silent : m.phase.asking = [])
    (asking : m'.phase.asking = [call]) (closing : m'.closing = m.closing) (info : m'.info = m.info)
    (resource : m'.resource = m.resource) : Logged m' log := by
  constructor
  · rw [calls, asking, List.filter_cons_of_pos rendering, h.renderer, silent]
    rfl
  · rw [calls, closing, info, resource,
      List.filterMap_cons_none (RenderCall.toRequest?_of_isRendering rendering _)]
    exact h.display

theorem Logged.present (h : Logged m log) (winding : Winding m) {frame : Frame}
    (here : m.phase = .presenting frame) (calls : m'.calls = .present frame :: m.calls)
    (asking : m'.phase.asking = []) (asked : m'.closing = m.closing) (info : m'.info = m.info)
    (resource : m'.resource = m.resource) :
    Logged m' { log with display := .present m.resource frame :: log.display } := by
  have unasked := winding.unasked (by simp [here, Phase.isOver])
  constructor
  · rw [calls, asking, List.filter_cons_of_neg (by simp [RenderCall.isRendering]), h.renderer, here]
    rfl
  · simp [calls, asked, info, resource, h.display, unasked, RenderCall.toRequest?]

variable [Renderer σ] [Display δ]

theorem step_preserves_winding {e : Event δ} {c : Machine σ × δ} (h : Winding m)
    (move : Move m d e c) : Winding c.1 := by
  cases move with
  | requestRefused | acquireRefused | acquire | rejected | releasedIdle | discarded | offerRefused
  | reallocateRefused | reallocate | shutdownAgain | waitOn | strayWakeCaller | outside =>
    exact { h with }
  | collect => exact ⟨by simpa using h.dead_iff, h.left⟩
  | request wanted spawn alive legal =>
    have stays := Session.isDead_request alive legal
    exact ⟨by simpa only [stays] using h.dead_iff, h.left⟩
  | start wanted alive visible =>
    have legal := Visibility.ne_dead_of_isVisible visible
    have open' := h.alive_notYet alive
    constructor <;> simp [Session.isDead, legal, open']
  | startRefused _ _ alive | startCrashed _ _ alive =>
    have open' := h.alive_notYet alive
    refine ⟨?_, by simp [open']⟩
    simpa [open', Session.isDead] using alive
  | handOver _ _ _ _ _ alive =>
    have open' := h.alive_notYet alive
    exact ⟨h.dead_iff, by simp [open']⟩
  | shutdownRunning | shutdownHalted =>
    constructor <;> simp [wakeAll, Session.isDead]
  | begin here | started _ _ here | startFailed _ _ _ here | startBroke _ _ here | park here
  | recordFault _ here | stop here | take _ here | skip _ here | composed _ _ here
  | composeFailed _ _ _ here | composeBroke _ _ here | presented _ _ here
  | presentFailed _ _ _ here | presentBroke _ _ here | strayWakeRender here =>
    refine ⟨h.dead_iff, fun given => ?_⟩
    have left := h.left given
    simp [here, Phase.isOver] at left
  | publish r here =>
    refine ⟨by simpa [wakeCallers] using h.dead_iff, fun given => ?_⟩
    have left := h.left given
    simp [here, Phase.isOver] at left
  | leave crashed =>
    exact ⟨by simpa [wakeAll] using h.dead_iff, by simp [wakeAll, Phase.notified, Phase.isOver]⟩
  | join joining left =>
    have dead := h.dead_iff.mpr (by simp [joining])
    exact ⟨by simp [dead], fun _ => left⟩
  | relinquish ready =>
    have dead := h.dead_iff.mpr (by simp [ready])
    exact ⟨by simp [dead], fun _ => h.left (.inl ready)⟩

theorem reachable_winding {c₀ c : Machine σ × δ} (h₀ : Winding c₀.1)
    (h : (system σ δ).Reachable c₀ c) : Winding c.1 :=
  h.invariant (I := fun c => Winding c.1) h₀ fun c e _ hc he =>
    step_preserves_winding hc (next_move c.1 c.2 e he)

theorem step_keeps_info {e : Event δ} {c : Machine σ × δ} (move : Move m d e c) :
    c.1.info = m.info ∧ c.1.resource = m.resource := by
  cases move <;> exact ⟨rfl, rfl⟩

theorem step_preserves_logged {e : Event δ} {c : Machine σ × δ} (life : Lifetime m) (winding : Winding m)
    (h : Logged m log) (move : Move m d e c) : Logged c.1 (log.noted m d e) := by
  cases move with
  | begin here =>
    rw [Log.noted_of_quiet (by simp [asks, here])]
    exact h.setOut (rfl : (RenderCall.start _).isRendering = true) rfl (by rw [here]; rfl) rfl rfl rfl rfl
  | take frame here =>
    rw [Log.noted_of_quiet (by simp [asks, here])]
    exact h.setOut (rfl : (RenderCall.compose _ _).isRendering = true) rfl (by rw [here]; rfl) rfl rfl rfl rfl
  | started _ _ here | startFailed _ _ _ here | startBroke _ _ here =>
    rw [Log.noted_of_starting here]
    exact ⟨by simpa [here, Phase.asking] using h.renderer, h.display⟩
  | composed _ _ here | composeFailed _ _ _ here | composeBroke _ _ here =>
    rw [Log.noted_of_composing here]
    exact ⟨by simpa [here, Phase.asking] using h.renderer, h.display⟩
  | presented _ _ here | presentFailed _ _ _ here | presentBroke _ _ here =>
    rw [Log.noted_of_presenting here]
    exact h.present winding here rfl rfl rfl rfl rfl
  | relinquish ready =>
    rw [Log.noted_relinquish]
    refine ⟨h.renderer, ?_⟩
    have before := h.display
    rw [ready] at before
    exact congrArg (.release m.info.id :: ·) before
  | shutdownRunning alive | shutdownHalted alive =>
    rw [Log.noted_of_quiet rfl]
    exact h.onward rfl (by simp [wakeAll]) (by simp [winding.alive_notYet alive, Closing.asked]) rfl
  | join joining =>
    rw [Log.noted_of_quiet rfl]
    exact h.onward rfl rfl (by simp [joining, Closing.asked]) rfl
  | recordFault _ here | park here | stop here | skip _ here | publish _ here | leave _ here =>
    rw [Log.noted_of_quiet (by simp [asks, here])]
    exact h.onward rfl (by simp [here, Phase.asking, wakeCallers, wakeAll, Phase.notified]) rfl rfl
  | start _ _ _ _ _ present =>
    -- There was no thread, so none had set out to call.
    have absent := life.renderer_absent present
    rw [Log.noted_of_quiet rfl]
    exact h.onward rfl (by simp [absent, Phase.asking]) rfl rfl
  | handOver =>
    rw [Log.noted_of_quiet rfl]
    exact h.onward rfl (by simp) rfl rfl
  | strayWakeRender here =>
    rw [Log.noted_of_quiet rfl]
    exact h.onward rfl (by simp [here, Phase.asking]) rfl rfl
  | _ =>
    rw [Log.noted_of_quiet rfl]
    exact h.onward rfl rfl rfl rfl

/-- Every call that the render thread remembers was made to the renderer or to the display, but for the one
that it has set out to make, and they were asked for nothing else but to take the display back. -/
theorem reachable_logged (info : DisplayInfo) (resource : UInt64) (shape : BufferShape) (renderer : σ)
    (d : δ) {c : (Machine σ × δ) × Log}
    (h : (recorded σ δ).Reachable ((Machine.fresh info resource shape renderer, d), {}) c) :
    Logged c.1.1 c.2 ∧ c.1.1.info = info ∧ c.1.1.resource = resource := by
  have initial := Lifetime.initial info resource shape renderer
  refine h.invariant (I := fun c => Logged c.1.1 c.2 ∧ c.1.1.info = info ∧ c.1.1.resource = resource)
    ⟨Logged.initial info resource shape renderer, rfl, rfl⟩ ?_
  intro c e reached ⟨logged, named, granted⟩ enabled
  have move := next_move c.1.1 c.1.2 e enabled.1
  have life := reachable_lifetime initial reached.of_observed
  have winding := reachable_winding (Winding.initial info resource shape renderer) reached.of_observed
  obtain ⟨same, same'⟩ := step_keeps_info move
  exact ⟨step_preserves_logged life winding logged move, same.trans named, same'.trans granted⟩

end Machine

end DisplaySurface
