import DisplaySurface.Proofs.Refinement.Solo

/-!
A session with a render thread does for a single caller what a session without one does. Between calls
the two agree, wherever the thread is on its way; during a release the thread is ahead by as much of the
frame as it has drawn, and during a shutdown it is still leaving.
-/

namespace DisplaySurface

theorem Phase.canWork_of_isOver {p : Phase} (left : p.isOver = true) : p.canWork = false := by
  cases p <;> first | rfl | cases left

def Paint.reply : Except String Unit → Reply
  | .ok () => .done
  | .error reason => .failed reason

section Renderers

variable {σ : Type} [Renderer σ]

def Renderer.composeAll : σ → List Painting → σ
  | renderer, [] => renderer
  | renderer, p :: ps => composeAll (Renderer.compose p.1 p.2 renderer).2 ps

/-- From here on the renderer composes what `paint` says, and never crashes. -/
def Renderer.Follows (paint : Paint) (past : List Painting) (renderer : σ) : Prop :=
  ∀ ps p, (Renderer.compose p.1 p.2 (composeAll renderer ps)).1 = Paint.reply (paint (past ++ ps) p)

structure Renderer.Suits (paint : Paint) (renderer : σ) (shape : BufferShape) : Prop where
  starts : (Renderer.start shape renderer).1 = .done
  follows : Follows paint [] (Renderer.start shape renderer).2

namespace Renderer.Follows

variable {paint : Paint} {past : List Painting} {renderer : σ}

theorem reply (h : Follows paint past renderer) (p : Painting) :
    (Renderer.compose p.1 p.2 renderer).1 = Paint.reply (paint past p) := by
  simpa [composeAll] using h [] p

theorem onward (h : Follows paint past renderer) (p : Painting) :
    Follows paint (past ++ [p]) (Renderer.compose p.1 p.2 renderer).2 := by
  intro ps q
  simpa [composeAll] using h (p :: ps) q

end Renderer.Follows

end Renderers

namespace Solo

variable {σ : Type}

structure Agrees (m : Machine σ) (d : HeadlessDisplay) (r : Inline) : Prop where
  id : m.info.id = r.id
  resource : m.resource = r.id
  slot : m.shared.slot = r.slot
  requested : m.shared.requested = r.requested
  thread : m.shared.thread = r.thread
  faultless : m.shared.fault = none
  tally : m.shared.tally = r.tally
  sequence : m.sequence = r.sequence
  display : d = r.display
  clean : m.poisoned = false

namespace Agrees

variable {m : Machine σ} {d : HeadlessDisplay} {r : Inline}

theorem view (h : Agrees m d r) : m.view d = r.view := by
  simp only [Machine.view, Inline.view, h.slot, h.requested, h.thread, h.faultless, h.tally, h.display]

theorem alive (h : Agrees m d r) (alive : r.requested ≠ .dead) : m.shared.isDead = false := by
  simp [Session.isDead, h.requested, alive]

theorem dead (h : Agrees m d r) (dead : r.requested = .dead) : m.shared.isDead = true := by
  simp [Session.isDead, h.requested, dead]

theorem elsewhere (h : Agrees m d r) (phase : Phase) (renderer : σ) (calls : List RenderCall) :
    Agrees { m with phase, renderer, calls } d r :=
  { h with }

end Agrees

variable [Renderer σ] (paint : Paint) (start : σ)

/-- The render thread gets ready for its next frame, or waits for it. `past` are the frames composed so
far. -/
inductive Warm (past : List Painting) : Phase → σ → Prop
  | created (first : past = []) : Warm past .created start
  | starting (shape) (first : past = []) (suits : Renderer.Suits paint start shape) :
      Warm past (.starting shape) start
  | seeking (renderer) (follows : Renderer.Follows paint past renderer) : Warm past .seeking renderer
  | parked (renderer) (follows : Renderer.Follows paint past renderer) : Warm past .parked renderer

/-- Where the render thread can be between two calls. -/
inductive Footing (m : Machine σ) (r : Inline) : Prop
  | absent (here : m.phase = .absent) (renderer : m.renderer = start)
      (present : m.shared.hasRenderer = true) (stopped : r.thread = .stopped)
      (hidden : r.requested = .notVisible) (first : r.composed = []) (closing : m.closing = .notYet)
  | warm (warm : Warm paint start r.composed m.phase m.renderer) (running : r.thread = .running)
      (alive : r.requested ≠ .dead) (closing : m.closing = .notYet)
  | closed (left : m.phase.isOver = true) (stopped : r.thread = .stopped) (dead : r.requested = .dead)
      (closing : m.closing = .closed)

structure Rest (m : Machine σ) (d : HeadlessDisplay) (r : Inline) : Prop where
  agrees : Agrees m d r
  idle : m.shared.handoff = .idle
  alone : m.waiters = []
  footing : Footing paint start m r

/-- How far the frame of a release has come. -/
inductive Place (ticket : Nat) (b : Checkout) (m : Machine σ) (d : HeadlessDisplay) (r : Inline) : Prop
  | asked (agrees : Agrees m d r) (ready : m.shared.handoff = .ready ⟨r.slot.live, b.layers⟩)
      (warm : Warm paint start r.composed m.phase m.renderer) (awake : m.phase ≠ .parked)
  | composing (agrees : Agrees m d r) (rendering : m.shared.handoff = .rendering)
      (here : m.phase = .composing ⟨r.slot.live, Layer.inDrawingOrder b.layers⟩)
      (follows : Renderer.Follows paint r.composed m.renderer)
  | presenting (agrees : Agrees m d { r with sequence := r.sequence + 1 })
      (rendering : m.shared.handoff = .rendering)
      (here : m.phase = .presenting ⟨r.slot.live, r.sequence + 1⟩)
      (painted : paint r.composed (r.slot.live, Layer.inDrawingOrder b.layers) = .ok ())
      (follows : Renderer.Follows paint
        (r.composed ++ [(r.slot.live, Layer.inDrawingOrder b.layers)]) m.renderer)
  | publishing (res : Rendered) (r' : Inline) (shown : r.release paint b = (res.outcome, r'))
      (agrees : Agrees m d { r' with slot := r.slot, requested := r.requested, tally := r.tally })
      (slot : r'.slot = r.slot.checkIn)
      (requested : r'.requested = if res = .presented then r.requested.promoted else r.requested)
      (tally : r'.tally = r.tally.count res) (rendering : m.shared.handoff = .rendering)
      (here : m.phase = .publishing res) (follows : Renderer.Follows paint r'.composed m.renderer)
  | done (outcome : Outcome) (r' : Inline) (shown : r.release paint b = (outcome, r'))
      (agrees : Agrees m d { r' with slot := r.slot }) (slot : r'.slot = r.slot.checkIn)
      (alive : r'.requested ≠ .dead) (done : m.shared.handoff = .done outcome)
      (warm : Warm paint start r'.composed m.phase m.renderer)
      (woken : m.waiters = [{ ticket, parked := false }])

/-- During a release whose frame was handed over. -/
structure Errand (ticket : Nat) (b : Checkout) (m : Machine σ) (d : HeadlessDisplay) (r : Inline) :
    Prop where
  valid : r.slot.validate b = .ok ()
  visible : r.requested.isVisible = true
  alive : m.shared.isDead = false
  running : m.shared.thread = .running
  clean : m.poisoned = false
  closing : m.closing = .notYet
  unreturned : ticket ∉ m.returned.map (·.1)
  waiting : ∃ parked, m.waiters = [{ ticket, parked }]
  place : Place paint start ticket b m d r

/-- How far the render thread has come since it was told to stop. -/
inductive Way (m : Machine σ) (r : Inline) : Lifecycle → Prop
  | warm (warm : Warm paint start r.composed m.phase m.renderer) (awake : m.phase ≠ .parked) :
      Way m r .stopping
  | leaving (here : m.phase = .leaving false) : Way m r .stopping
  | away (left : m.phase.isOver = true) : Way m r .stopped

inductive Departure (m : Machine σ) (d : HeadlessDisplay) (r : Inline) : Prop
  | joining (thread : Lifecycle) (alive : r.requested ≠ .dead)
      (agrees : Agrees m d { r with requested := .dead, thread })
      (idle : m.shared.handoff = .idle) (alone : m.waiters = []) (closing : m.closing = .joining)
      (way : Way paint start m r thread)
  | relinquishing (alive : r.requested ≠ .dead)
      (agrees : Agrees m d { r with requested := .dead, thread := .stopped })
      (idle : m.shared.handoff = .idle) (alone : m.waiters = [])
      (closing : m.closing = .relinquishing) (left : m.phase.isOver = true)

variable {paint start} {m : Machine σ} {d : HeadlessDisplay} {r : Inline}

theorem Warm.notified {past : List Painting} {p : Phase} {renderer : σ}
    (h : Warm paint start past p renderer) : Warm paint start past p.notified renderer := by
  cases h with
  | created first => exact .created first
  | starting shape first suits => exact .starting shape first suits
  | seeking renderer follows | parked renderer follows => exact .seeking renderer follows

theorem Warm.follows {past : List Painting} {p : Phase} {renderer : σ}
    (h : Warm paint start past p renderer) (here : p = .seeking) :
    Renderer.Follows paint past renderer := by
  subst here
  cases h with
  | seeking renderer follows => exact follows

theorem Warm.unfinished {past : List Painting} {p : Phase} {renderer : σ}
    (h : Warm paint start past p renderer) : p.isOver = false := by
  cases h <;> rfl

theorem Warm.early (warm : Warm paint start r.composed m.phase m.renderer)
    (early : m.phase ≠ .seeking) (works : m.phase.canWork = true)
    (suits : Renderer.Suits paint start m.shared.slot.live.shape) :
    ∃ phase renderer calls, m.work d = ({ m with phase, renderer, calls }, d) ∧
      Warm paint start r.composed phase renderer ∧ phase ≠ .parked := by
  generalize here : m.phase = phase at warm early works
  generalize there : m.renderer = renderer at warm
  cases warm with
  | created first =>
    refine ⟨.starting m.shared.slot.live.shape, m.renderer, .start m.shared.slot.live.shape :: m.calls,
      by simp [Machine.work, here], ?_, by simp⟩
    rw [there]
    exact .starting _ first suits
  | starting shape first suits =>
    rcases reply : Renderer.start shape m.renderer with ⟨answer, renderer⟩
    have done : answer = .done := by
      have starts := suits.starts
      rw [← there, reply] at starts
      exact starts
    subst done
    refine ⟨.seeking, renderer, m.calls, by simp [Machine.work, here, reply], .seeking _ ?_, by simp⟩
    have follows := suits.follows
    rw [← there, reply] at follows
    rwa [first]
  | seeking => exact absurd rfl early
  | parked => cases works

theorem Footing.onward {m' : Machine σ} {r' : Inline} (h : Footing paint start m r)
    (phase : m'.phase = m.phase) (renderer : m'.renderer = m.renderer)
    (present : m'.shared.hasRenderer = m.shared.hasRenderer) (closing : m'.closing = m.closing)
    (thread : r'.thread = r.thread) (requested : r'.requested = r.requested)
    (composed : r'.composed = r.composed) : Footing paint start m' r' := by
  cases h with
  | absent here renderer₀ present₀ stopped hidden first unclosed =>
    exact .absent (phase.trans here) (renderer.trans renderer₀) (present.trans present₀)
      (thread.trans stopped) (requested.trans hidden) (composed.trans first) (closing.trans unclosed)
  | warm warm running alive unclosed =>
    refine .warm ?_ (thread.trans running) (requested ▸ alive) (closing.trans unclosed)
    rw [phase, renderer, composed]
    exact warm
  | closed left stopped dead closed =>
    exact .closed (phase ▸ left) (thread.trans stopped) (requested.trans dead) (closing.trans closed)

namespace Rest

theorem running_of_visible (h : Rest paint start m d r) (visible : r.requested.isVisible = true) :
    r.thread = .running := by
  cases h.footing with
  | absent _ _ _ _ hidden => simp [hidden, Visibility.isVisible] at visible
  | warm _ running => exact running
  | closed _ _ dead => simp [dead, Visibility.isVisible] at visible

theorem acquire (h : Rest paint start m d r) : m.acquire.1 = r.acquire.1 ∧
    Rest paint start m.acquire.2 d r.acquire.2 := by
  by_cases dead : r.requested = .dead
  · have refused : m.acquire = (.error .sessionDead, m) := by
      simp [Machine.acquire, Session.acquire, h.agrees.dead dead]
    have refused' : r.acquire = (.error .sessionDead, r) := by simp [Inline.acquire, dead]
    rw [refused, refused']
    exact ⟨rfl, h⟩
  · have lent : m.acquire = (r.slot.checkOut.1,
        { m with shared := { m.shared with slot := r.slot.checkOut.2 } }) := by
      simp [Machine.acquire, Session.acquire, h.agrees.alive dead, h.agrees.slot]
    have lent' : r.acquire = (r.slot.checkOut.1, { r with slot := r.slot.checkOut.2 }) := by
      simp [Inline.acquire, dead]
    rw [lent, lent']
    exact ⟨rfl, { h.agrees with slot := rfl }, h.idle, h.alone,
      h.footing.onward rfl rfl rfl rfl rfl rfl rfl⟩

theorem reallocate (h : Rest paint start m d r) (shape : BufferShape) :
    (m.reallocate shape).1 = (r.reallocate shape).1 ∧
      Rest paint start (m.reallocate shape).2 d (r.reallocate shape).2 := by
  by_cases dead : r.requested = .dead
  · have refused : m.reallocate shape = (.error .sessionDead, m) := by
      simp [Machine.reallocate, Session.reallocate, h.agrees.dead dead]
    have refused' : r.reallocate shape = (.error .sessionDead, r) := by simp [Inline.reallocate, dead]
    rw [refused, refused']
    exact ⟨rfl, h⟩
  · have alive := h.agrees.alive dead
    cases valid : shape.check with
    | error e =>
      have refused : m.reallocate shape = (.error (.invalidState e.message), m) := by
        simp [Machine.reallocate, Session.reallocate, alive, h.idle, Handoff.isIdle, valid]
      have refused' : r.reallocate shape = (.error (.invalidState e.message), r) := by
        simp [Inline.reallocate, dead, valid]
      rw [refused, refused']
      exact ⟨rfl, h⟩
    | ok =>
      have replaced : m.reallocate shape = (.ok (r.slot.reallocate shape).live,
          { m with shared := { m.shared with slot := r.slot.reallocate shape } }) := by
        simp [Machine.reallocate, Session.reallocate, alive, h.idle, Handoff.isIdle, valid,
          h.agrees.slot]
      have replaced' : r.reallocate shape =
          (.ok (r.slot.reallocate shape).live, { r with slot := r.slot.reallocate shape }) := by
        simp [Inline.reallocate, dead, valid]
      rw [replaced, replaced']
      exact ⟨rfl, { h.agrees with slot := rfl }, h.idle, h.alone,
        h.footing.onward rfl rfl rfl rfl rfl rfl rfl⟩

theorem failNext (h : Rest paint start m d r) (n : Nat) :
    Rest paint start m (d.failNext n) { r with display := r.display.failNext n } :=
  ⟨{ h.agrees with display := by rw [h.agrees.display] }, h.idle, h.alone,
    h.footing.onward rfl rfl rfl rfl rfl rfl rfl⟩

/-- The one request that starts the thread leaves both sides with a running one. -/
theorem setState_starting (h : Rest paint start m d r) {wanted : Visibility} (legal : wanted ≠ .dead)
    (alive : r.requested ≠ .dead) (starts : m.shared.starts wanted = true) :
    (m.setState wanted .started).1 = .returned (.ok ()) ∧
      Rest paint start (m.setState wanted .started).2 d
        { r with requested := wanted, thread := if wanted.isVisible then .running else r.thread } := by
  obtain ⟨visible, stopped, -⟩ := (Session.starts_iff wanted m.shared).mp starts
  cases h.footing with
  | warm _ running => simp [← h.agrees.thread, stopped] at running
  | closed _ _ dead => exact absurd dead alive
  | absent here renderer present _ _ first closing =>
    rw [Machine.setState_of_started (h.agrees.alive alive) starts present]
    refine ⟨rfl, { h.agrees with requested := rfl, thread := by simp [visible] }, h.idle, h.alone, ?_⟩
    exact .warm (renderer ▸ .created first) (by simp [visible]) legal closing

/-- A request that starts no thread finds one already, or asks for what needs none. -/
theorem setState_keeping (h : Rest paint start m d r) {wanted : Visibility} (legal : wanted ≠ .dead)
    (alive : r.requested ≠ .dead) (keeps : m.shared.starts wanted = false) :
    (m.setState wanted .started).1 = .returned (.ok ()) ∧
      Rest paint start (m.setState wanted .started).2 d
        { r with requested := wanted, thread := if wanted.isVisible then .running else r.thread } := by
  have kept : m.setState wanted .started =
      (.returned (.ok ()), { m with shared := { m.shared with requested := wanted } }) := by
    simp [Machine.setState, Session.setState, legal, h.agrees.alive alive, keeps, Ending.isCrash]
  rw [kept]
  cases h.footing with
  | closed _ _ dead => exact absurd dead alive
  | warm warm running _ closing =>
    refine ⟨rfl, { h.agrees with requested := rfl, thread := ?_ }, h.idle, h.alone, ?_⟩
    · simp [h.agrees.thread, running]
    · exact .warm warm (by simp [running]) legal closing
  | absent here renderer present stopped _ first closing =>
    have invisible : wanted.isVisible = false := by
      simpa [Session.starts, h.agrees.thread, stopped, h.agrees.faultless] using keeps
    have hidden : wanted = .notVisible := by
      cases wanted with
      | notVisible => rfl
      | dead => exact absurd rfl legal
      | visible | visibleOnNextFrame => cases invisible
    refine ⟨rfl, { h.agrees with requested := rfl, thread := ?_ }, h.idle, h.alone, ?_⟩
    · simp [invisible, h.agrees.thread]
    · exact .absent here renderer present (by simp [invisible, stopped]) hidden first closing

theorem setState (h : Rest paint start m d r) (wanted : Visibility) :
    (m.setState wanted .started).1 = .returned (r.setState wanted).1 ∧
      Rest paint start (m.setState wanted .started).2 d (r.setState wanted).2 := by
  by_cases illegal : wanted = .dead
  · have refused : m.setState wanted .started = (.returned (.error .deadRequested), m) := by
      simp [Machine.setState, Session.setState, illegal, Ending.isCrash]
    have refused' : r.setState wanted = (.error .deadRequested, r) := by
      simp [Inline.setState, illegal]
    rw [refused, refused']
    exact ⟨rfl, h⟩
  by_cases dead : r.requested = .dead
  · have refused : m.setState wanted .started = (.returned (.error .sessionDead), m) := by
      simp [Machine.setState, Session.setState, illegal, h.agrees.dead dead, Ending.isCrash]
    have refused' : r.setState wanted = (.error .sessionDead, r) := by
      simp [Inline.setState, illegal, dead]
    rw [refused, refused']
    exact ⟨rfl, h⟩
  have granted : r.setState wanted = (.ok (),
      { r with requested := wanted, thread := if wanted.isVisible then .running else r.thread }) := by
    simp [Inline.setState, illegal, dead]
  rw [granted]
  cases starts : m.shared.starts wanted with
  | true => exact h.setState_starting illegal dead starts
  | false => exact h.setState_keeping illegal dead starts

theorem handOver (h : Rest paint start m d r) {ticket : Nat} {b : Checkout}
    (unreturned : ticket ∉ m.returned.map (·.1)) (valid : r.slot.validate b = .ok ())
    (visible : r.requested.isVisible = true) :
    Errand paint start ticket b (m.release ticket b) d r := by
  have running := h.running_of_visible visible
  have alive := h.agrees.alive (Visibility.ne_dead_of_isVisible visible)
  cases h.footing with
  | absent _ _ _ stopped | closed _ stopped => simp [stopped] at running
  | warm warm _ _ closing =>
    have handedOver : m.release ticket b =
        { m with
          shared := { m.shared with handoff := .ready ⟨r.slot.live, b.layers⟩ }
          phase := m.phase.notified
          waiters := [{ ticket }] } := by
      simp [Machine.release, Session.release_of_idle (h.agrees.slot ▸ valid) alive
        (h.agrees.requested ▸ visible) (h.agrees.thread.trans running) h.idle, h.alone, h.agrees.slot]
    rw [handedOver]
    exact ⟨valid, visible, alive, h.agrees.thread.trans running, h.agrees.clean, closing, unreturned,
      ⟨true, rfl⟩, .asked { h.agrees with } rfl warm.notified m.phase.notified_ne_parked⟩

theorem release (h : Rest paint start m d r) (ticket : Nat) (b : Checkout)
    (unreturned : ticket ∉ m.returned.map (·.1)) :
    (m.release ticket b).returned = (ticket, (r.release paint b).1) :: m.returned ∧
        Rest paint start (m.release ticket b) d (r.release paint b).2 ∨
      Errand paint start ticket b (m.release ticket b) d r := by
  have slot := h.agrees.slot
  cases valid : r.slot.validate b with
  | error e =>
    have rejected : m.release ticket b = { m with returned := (ticket, .error e) :: m.returned } := by
      simp [Machine.release, Session.release_of_invalid (slot ▸ valid)]
    have rejected' : r.release paint b = (.error e, r) := by simp [Inline.release, valid]
    rw [rejected, rejected']
    exact .inl ⟨rfl, { h.agrees with }, h.idle, h.alone, h.footing.onward rfl rfl rfl rfl rfl rfl rfl⟩
  | ok =>
    have valid' : m.shared.slot.validate b = .ok () := slot ▸ valid
    cases visible : r.requested.isVisible with
    | true => exact .inr (h.handOver unreturned valid visible)
    | false =>
      by_cases dead : r.requested = .dead
      · have returned : m.release ticket b = { m with
            shared := m.shared.checkIn, returned := (ticket, .error .shutDown) :: m.returned } := by
          simp [Machine.release, Session.release_of_off valid' (.inl (h.agrees.dead dead))]
        have returned' : r.release paint b = (.error .shutDown, { r with slot := r.slot.checkIn }) := by
          simp [Inline.release, valid, dead]
        rw [returned, returned']
        exact .inl ⟨rfl, { h.agrees with slot := congrArg Slot.checkIn slot }, h.idle, h.alone,
          h.footing.onward rfl rfl rfl rfl rfl rfl rfl⟩
      · have hidden := h.agrees.requested ▸ visible
        have discarded : m.release ticket b = { m with
            shared := { m.shared.checkIn with
              tally := { m.shared.tally with discarded := m.shared.tally.discarded + 1 } }
            returned := (ticket, .ok ()) :: m.returned } := by
          simp [Machine.release, Session.release_of_hidden valid' (h.agrees.alive dead) hidden]
        have discarded' : r.release paint b = (.ok (), { r with
            slot := r.slot.checkIn
            tally := { r.tally with discarded := r.tally.discarded + 1 } }) := by
          simp [Inline.release, valid, dead, visible]
        rw [discarded, discarded']
        refine .inl ⟨rfl, ?_, h.idle, h.alone, h.footing.onward rfl rfl rfl rfl rfl rfl rfl⟩
        exact { h.agrees with
          slot := congrArg Slot.checkIn slot
          tally := by simp [h.agrees.tally] }

theorem shutdown (h : Rest paint start m d r) :
    r.requested = .dead ∧ m.shutdown = m ∧ r.shutdown = r ∨
      r.requested ≠ .dead ∧ Departure paint start m.shutdown d r := by
  by_cases dead : r.requested = .dead
  · left
    refine ⟨dead, ?_, by simp [Inline.shutdown, dead]⟩
    simp [Machine.shutdown, Session.beginShutdown?, h.agrees.dead dead]
  · right
    refine ⟨dead, ?_⟩
    have alive := h.agrees.alive dead
    cases h.footing with
    | absent here renderer present stopped hidden first closing =>
      rw [Machine.shutdown_of_halted alive (by simp [h.agrees.thread, stopped])]
      refine .joining .stopped dead { h.agrees with requested := rfl, thread := ?_ } h.idle ?_ rfl ?_
      · exact h.agrees.thread.trans stopped
      · simp [Machine.wakeAll, h.alone]
      · exact .away (by simp [Machine.wakeAll, here, Phase.notified, Phase.isOver])
    | warm warm running _ closing =>
      rw [Machine.shutdown_of_running alive (h.agrees.thread.trans running)]
      refine .joining .stopping dead { h.agrees with requested := rfl, thread := rfl } h.idle ?_ rfl ?_
      · simp [Machine.wakeAll, h.alone]
      · exact .warm warm.notified m.phase.notified_ne_parked
    | closed _ _ dead' => exact absurd dead' dead

/-- The render thread goes on between two calls, and nobody sees it. -/
theorem go (h : Rest paint start m d r) (suits : Renderer.Suits paint start r.slot.live.shape)
    {e : Event HeadlessDisplay} (own : (e.isProgress || e.isStray) = true) (enabled : m.Enabled e) :
    Rest paint start (m.next d e).1 (m.next d e).2 r := by
  cases e with
  | work =>
    have works : m.phase.canWork = true := enabled
    cases h.footing with
    | absent here => simp [here, Phase.canWork] at works
    | closed left => simp [Phase.canWork_of_isOver left] at works
    | warm warm running alive closing =>
      by_cases here : m.phase = .seeking
      · have parks : m.work d = ({ m with phase := .parked }, d) := by
          have running' := h.agrees.thread.trans running
          simp [Machine.work, here,
            Session.nextFrame_of_not_ready running' (by simp [h.idle, Handoff.isReady])]
        simp only [Machine.next, parks]
        exact ⟨{ h.agrees with }, h.idle, h.alone,
          .warm (.parked m.renderer (warm.follows here)) running alive closing⟩
      · obtain ⟨phase, renderer, calls, goes, warm', -⟩ :=
          warm.early (d := d) here works (h.agrees.slot ▸ suits)
        simp only [Machine.next, goes]
        exact ⟨h.agrees.elsewhere _ _ _, h.idle, h.alone, .warm warm' running alive closing⟩
  | strayWakeRender =>
    have parked : m.phase = .parked := enabled
    cases h.footing with
    | absent here => simp [parked] at here
    | closed left => simp [parked, Phase.isOver] at left
    | warm warm running alive closing =>
      exact ⟨{ h.agrees with }, h.idle, h.alone, .warm warm.notified running alive closing⟩
  | resume ticket => simp [Machine.Enabled, Machine.hasWaiter, h.alone] at enabled
  | strayWakeCaller ticket => simp [Machine.Enabled, Machine.hasWaiter, h.alone] at enabled
  | join | relinquish =>
    cases h.footing with
    | absent _ _ _ _ _ _ closing | warm _ _ _ closing | closed _ _ _ closing =>
      simp [Machine.Enabled, closing] at enabled
  | _ => cases own

end Rest

namespace Errand

variable {ticket : Nat} {b : Checkout}

theorem watch (h : Errand paint start ticket b m d r) (unfinished : m.shared.handoff.isDone = false)
    (parked : Bool) : Errand paint start ticket b { m with waiters := [{ ticket, parked }] } d r := by
  refine { h with waiting := ⟨parked, rfl⟩, place := ?_ }
  cases h.place with
  | asked agrees ready warm awake => exact .asked { agrees with } ready warm awake
  | composing agrees rendering here follows => exact .composing { agrees with } rendering here follows
  | presenting agrees rendering here painted follows =>
    exact .presenting { agrees with } rendering here painted follows
  | publishing res r' shown agrees slot requested tally rendering here follows =>
    exact .publishing res r' shown { agrees with } slot requested tally rendering here follows
  | done outcome r' shown agrees slot alive done => simp [done, Handoff.isDone] at unfinished

theorem collect (h : Errand paint start ticket b m d r) (finished : m.shared.handoff.isDone = true) :
    (m.resume ticket).returned = (ticket, (r.release paint b).1) :: m.returned ∧
      Rest paint start (m.resume ticket) d (r.release paint b).2 := by
  cases h.place with
  | asked _ ready => simp [ready, Handoff.isDone] at finished
  | composing _ rendering | presenting _ rendering | publishing _ _ _ _ _ _ _ rendering =>
    simp [rendering, Handoff.isDone] at finished
  | done outcome r' shown agrees slot alive done warm woken =>
    have settled : m.shared.mustWait = false := by simp [Session.mustWait, finished]
    have collected : m.resume ticket = { m with
        shared := { m.shared with slot := m.shared.slot.checkIn, handoff := .idle }
        waiters := []
        returned := (ticket, outcome) :: m.returned } := by
      simp [Machine.resume, settled, Session.collect, Handoff.collect, done, woken, Session.checkIn]
    rw [collected, shown]
    refine ⟨rfl, { agrees with slot := ?_ }, rfl, rfl, ?_⟩
    · rw [slot]
      exact congrArg Slot.checkIn agrees.slot
    · exact .warm warm (agrees.thread ▸ h.running) alive h.closing

theorem ask (h : Errand paint start ticket b m d r) (agrees : Agrees m d r)
    (ready : m.shared.handoff = .ready ⟨r.slot.live, b.layers⟩)
    (warm : Warm paint start r.composed m.phase m.renderer) (works : m.phase.canWork = true)
    (suits : Renderer.Suits paint start r.slot.live.shape) :
    Errand paint start ticket b (m.work d).1 (m.work d).2 r := by
  by_cases here : m.phase = .seeking
  · have takes : m.work d = ({ m with
        shared := { m.shared with handoff := .rendering }
        phase := .composing ⟨r.slot.live, Layer.inDrawingOrder b.layers⟩
        calls := .compose r.slot.live (Layer.inDrawingOrder b.layers) :: m.calls }, d) := by
      have visible : m.shared.requested.isVisible = true := agrees.requested ▸ h.visible
      simp [Machine.work, here, Session.nextFrame_of_ready h.running ready, visible]
    rw [takes]
    exact { h with place := .composing { agrees with } rfl rfl (warm.follows here) }
  · obtain ⟨phase, renderer, calls, goes, warm', awake'⟩ :=
      warm.early (d := d) here works (agrees.slot ▸ suits)
    rw [goes]
    exact { h with place := .asked (agrees.elsewhere _ _ _) ready warm' awake' }

theorem compose (h : Errand paint start ticket b m d r) (agrees : Agrees m d r)
    (rendering : m.shared.handoff = .rendering)
    (here : m.phase = .composing ⟨r.slot.live, Layer.inDrawingOrder b.layers⟩)
    (follows : Renderer.Follows paint r.composed m.renderer) :
    Errand paint start ticket b (m.work d).1 (m.work d).2 r := by
  rcases reply : Renderer.compose r.slot.live (Layer.inDrawingOrder b.layers) m.renderer with
    ⟨answer, renderer⟩
  have answers := follows.reply (r.slot.live, Layer.inDrawingOrder b.layers)
  have onward := follows.onward (r.slot.live, Layer.inDrawingOrder b.layers)
  rw [reply] at answers onward
  change answer = _ at answers
  cases painted : paint r.composed (r.slot.live, Layer.inDrawingOrder b.layers) with
  | ok =>
    have composes : m.work d = ({ m with
        renderer
        sequence := m.sequence + 1
        phase := .presenting ⟨r.slot.live, m.sequence + 1⟩ }, d) := by
      obtain rfl : answer = .done := by rw [answers, painted]; rfl
      simp [Machine.work, here, reply]
    rw [composes, agrees.sequence]
    exact { h with
      place := .presenting { agrees with sequence := rfl } rendering rfl painted onward }
  | error reason =>
    have fails : m.work d = ({ m with
        renderer
        phase := .publishing (.failed (.composeFailed reason)) }, d) := by
      obtain rfl : answer = .failed reason := by rw [answers, painted]; rfl
      simp [Machine.work, here, reply]
    rw [fails]
    have shown := Inline.release_of_unpainted h.valid h.visible painted
    exact { h with
      place := .publishing (.failed (.composeFailed reason)) _ shown { agrees with } rfl rfl rfl
        rendering rfl onward }

/-- The display answers the thread as it would have answered the caller. -/
theorem present (h : Errand paint start ticket b m d r)
    (agrees : Agrees m d { r with sequence := r.sequence + 1 })
    (rendering : m.shared.handoff = .rendering)
    (here : m.phase = .presenting ⟨r.slot.live, r.sequence + 1⟩)
    (painted : paint r.composed (r.slot.live, Layer.inDrawingOrder b.layers) = .ok ())
    (follows : Renderer.Follows paint
      (r.composed ++ [(r.slot.live, Layer.inDrawingOrder b.layers)]) m.renderer) :
    Errand paint start ticket b (m.work d).1 (m.work d).2 r := by
  have display := agrees.display
  have resource := agrees.resource
  rcases answer : r.display.present r.id ⟨r.slot.live, r.sequence + 1⟩ with ⟨e | _, d'⟩
  case ok =>
    have presents : m.work d = ({ m with
        phase := .publishing .presented
        calls := .present ⟨r.slot.live, r.sequence + 1⟩ :: m.calls }, d') := by
      simp [Machine.work, here, display, resource, Display.present, answer]
    rw [presents]
    have shown := Inline.release_of_presented h.valid h.visible painted answer
    exact { h with
      place := .publishing .presented _ shown { agrees with display := rfl } rfl rfl rfl rendering rfl
        follows }
  case error =>
    have fails : m.work d = ({ m with
        phase := .publishing (.failed (.presentFailed e.message))
        calls := .present ⟨r.slot.live, r.sequence + 1⟩ :: m.calls }, d') := by
      simp [Machine.work, here, display, resource, Display.present, answer]
    rw [fails]
    have shown := Inline.release_of_unpresented h.valid h.visible painted answer
    exact { h with
      place := .publishing (.failed (.presentFailed e.message)) _ shown
        { agrees with display := rfl } rfl rfl rfl rendering rfl follows }

theorem publish (h : Errand paint start ticket b m d r) {res : Rendered} {r' : Inline}
    (shown : r.release paint b = (res.outcome, r'))
    (agrees : Agrees m d { r' with slot := r.slot, requested := r.requested, tally := r.tally })
    (slot : r'.slot = r.slot.checkIn)
    (requested : r'.requested = if res = .presented then r.requested.promoted else r.requested)
    (tally : r'.tally = r.tally.count res) (rendering : m.shared.handoff = .rendering)
    (here : m.phase = .publishing res) (follows : Renderer.Follows paint r'.composed m.renderer) :
    Errand paint start ticket b (m.work d).1 (m.work d).2 r := by
  have publishes : m.work d =
      ({ m with shared := m.shared.finishFrame res, phase := .seeking }.wakeCallers, d) := by
    simp [Machine.work, here]
  rw [publishes]
  obtain ⟨parked, waiting⟩ := h.waiting
  have woken : (m.waiters.map fun w => { w with parked := false }) = [{ ticket, parked := false }] := by
    simp [waiting]
  have requested' : (m.shared.finishFrame res).requested = r'.requested := by
    rw [requested]
    simp only [Session.finishFrame, agrees.requested]
  have tally' : (m.shared.finishFrame res).tally = r'.tally := by
    rw [tally]
    simp only [Session.finishFrame, agrees.tally]
  have alive : r'.requested ≠ .dead := by
    intro dead
    have ended : (m.shared.finishFrame res).isDead = true := by simp [Session.isDead, requested', dead]
    rw [Session.finishFrame_isDead, h.alive] at ended
    cases ended
  exact { h with
    alive := by simp [Machine.wakeCallers, h.alive]
    waiting := ⟨false, woken⟩
    place := .done res.outcome r' shown { agrees with requested := requested', tally := tally' } slot
      alive (Session.finishFrame_handoff rendering res) (.seeking m.renderer follows) woken }

theorem park (h : Errand paint start ticket b m d r) {outcome : Outcome} {r' : Inline}
    (shown : r.release paint b = (outcome, r')) (agrees : Agrees m d { r' with slot := r.slot })
    (slot : r'.slot = r.slot.checkIn) (alive : r'.requested ≠ .dead)
    (done : m.shared.handoff = .done outcome)
    (warm : Warm paint start r'.composed m.phase m.renderer)
    (woken : m.waiters = [{ ticket, parked := false }]) (works : m.phase.canWork = true)
    (suits : Renderer.Suits paint start r.slot.live.shape) :
    Errand paint start ticket b (m.work d).1 (m.work d).2 r := by
  by_cases here : m.phase = .seeking
  · have parks : m.work d = ({ m with phase := .parked }, d) := by
      simp [Machine.work, here,
        Session.nextFrame_of_not_ready h.running (by simp [done, Handoff.isReady])]
    rw [parks]
    exact { h with
      place := .done outcome r' shown { agrees with } slot alive done
        (.parked m.renderer (warm.follows here)) woken }
  · obtain ⟨phase, renderer, calls, goes, warm', -⟩ :=
      warm.early (d := d) here works (agrees.slot ▸ suits)
    rw [goes]
    exact { h with
      place := .done outcome r' shown (agrees.elsewhere _ _ _) slot alive done warm' woken }

theorem work (h : Errand paint start ticket b m d r)
    (suits : Renderer.Suits paint start r.slot.live.shape) (works : m.phase.canWork = true) :
    Errand paint start ticket b (m.work d).1 (m.work d).2 r := by
  cases h.place with
  | asked agrees ready warm => exact h.ask agrees ready warm works suits
  | composing agrees rendering here follows => exact h.compose agrees rendering here follows
  | presenting agrees rendering here painted follows =>
    exact h.present agrees rendering here painted follows
  | publishing res r' shown agrees slot requested tally rendering here follows =>
    exact h.publish shown agrees slot requested tally rendering here follows
  | done outcome r' shown agrees slot alive done warm woken =>
    exact h.park shown agrees slot alive done warm woken works suits

/-- Whatever happens during a release, it goes on, or it returns what it should. -/
theorem go (h : Errand paint start ticket b m d r)
    (suits : Renderer.Suits paint start r.slot.live.shape) {e : Event HeadlessDisplay}
    (own : (e.isProgress || e.isStray) = true) (enabled : m.Enabled e) :
    Errand paint start ticket b (m.next d e).1 (m.next d e).2 r ∨
      (m.next d e).1.returned = (ticket, (r.release paint b).1) :: m.returned ∧
        Rest paint start (m.next d e).1 (m.next d e).2 (r.release paint b).2 := by
  obtain ⟨parked, waiting⟩ := h.waiting
  cases e with
  | work => exact .inl (h.work suits enabled)
  | resume other =>
    obtain ⟨rfl, rfl⟩ : ticket = other ∧ parked = false := by
      simpa [Machine.Enabled, Machine.hasWaiter, waiting] using enabled
    cases finished : m.shared.handoff.isDone with
    | true => exact .inr (h.collect finished)
    | false =>
      have must : m.shared.mustWait = true :=
        (Session.mustWait_eq_true_iff _).mpr ⟨finished, h.alive, h.running⟩
      have waits : m.resume ticket = { m with waiters := [{ ticket, parked := true }] } := by
        simp [Machine.resume, must, h.clean, waiting]
      simp only [Machine.next, waits]
      exact .inl (h.watch finished true)
  | strayWakeRender =>
    have here : m.phase = .parked := enabled
    cases h.place with
    | asked _ _ _ awake => exact absurd here awake
    | composing _ _ there | presenting _ _ there | publishing _ _ _ _ _ _ _ _ there =>
      simp [here] at there
    | done outcome r' shown agrees slot alive done warm woken =>
      exact .inl { h with
        place := .done outcome r' shown { agrees with } slot alive done warm.notified woken }
  | strayWakeCaller other =>
    obtain ⟨rfl, rfl⟩ : ticket = other ∧ parked = true := by
      simpa [Machine.Enabled, Machine.hasWaiter, waiting] using enabled
    cases finished : m.shared.handoff.isDone with
    | true =>
      cases h.place with
      | asked _ ready => simp [ready, Handoff.isDone] at finished
      | composing _ rendering | presenting _ rendering | publishing _ _ _ _ _ _ _ rendering =>
        simp [rendering, Handoff.isDone] at finished
      | done _ _ _ _ _ _ _ _ woken => simp [waiting] at woken
    | false =>
      have wakes : m.next d (.strayWakeCaller ticket) =
          ({ m with waiters := [{ ticket, parked := false }] }, d) := by
        simp [Machine.next, waiting]
      rw [wakes]
      exact .inl (h.watch finished false)
  | join | relinquish => simp [Machine.Enabled, h.closing] at enabled
  | _ => cases own

end Errand

namespace Departure

theorem work (h : Departure paint start m d r)
    (suits : Renderer.Suits paint start r.slot.live.shape) (works : m.phase.canWork = true) :
    Departure paint start (m.work d).1 (m.work d).2 r := by
  cases h with
  | relinquishing alive agrees idle alone closing left =>
    simp [Phase.canWork_of_isOver left] at works
  | joining thread alive agrees idle alone closing way =>
    cases way with
    | away left => simp [Phase.canWork_of_isOver left] at works
    | warm warm awake =>
      by_cases here : m.phase = .seeking
      · have stops : m.work d = ({ m with phase := .leaving false }, d) := by
          have halted : m.shared.thread ≠ .running := by simp [agrees.thread]
          simp [Machine.work, here, Session.nextFrame_of_halted halted]
        rw [stops]
        exact .joining .stopping alive { agrees with } idle alone closing (.leaving rfl)
      · obtain ⟨phase, renderer, calls, goes, warm', awake'⟩ :=
          warm.early (d := d) here works (agrees.slot ▸ suits)
        rw [goes]
        exact .joining .stopping alive (agrees.elsewhere _ _ _) idle alone closing (.warm warm' awake')
    | leaving here =>
      have leaves : m.work d = ({ m with shared := m.shared.exit false, phase := .gone }.wakeAll, d) := by
        simp [Machine.work, here]
      rw [leaves]
      have faultless : (m.shared.exit false).fault = none := by
        simp [Session.exit_fault, agrees.faultless]
      have tally : (m.shared.exit false).tally = r.tally := by
        rw [Session.exit_eq]
        exact agrees.tally
      refine .joining .stopped alive ?_ rfl (by simp [Machine.wakeAll, alone]) closing (.away rfl)
      exact { agrees with
        slot := (Session.exit_slot _ _).trans agrees.slot
        requested := (Session.exit_requested _ _).trans agrees.requested
        thread := Session.exit_thread _ _
        faultless
        tally }

/-- Whatever happens during the first shutdown, it goes on, or it returns. -/
theorem go (h : Departure paint start m d r)
    (suits : Renderer.Suits paint start r.slot.live.shape) {e : Event HeadlessDisplay}
    (own : (e.isProgress || e.isStray) = true) (enabled : m.Enabled e) :
    Departure paint start (m.next d e).1 (m.next d e).2 r ∨
      (m.next d e).1.closing = .closed ∧
        Rest paint start (m.next d e).1 (m.next d e).2 r.shutdown := by
  cases e with
  | work => exact .inl (h.work suits enabled)
  | resume ticket | strayWakeCaller ticket =>
    cases h with
    | joining _ _ _ _ alone | relinquishing _ _ _ alone =>
      simp [Machine.Enabled, Machine.hasWaiter, alone] at enabled
  | strayWakeRender =>
    have here : m.phase = .parked := enabled
    cases h with
    | relinquishing _ _ _ _ _ left => simp [here, Phase.isOver] at left
    | joining thread alive agrees idle alone closing way =>
      cases way with
      | warm _ awake => exact absurd here awake
      | leaving there => simp [here] at there
      | away left => simp [here, Phase.isOver] at left
  | join =>
    obtain ⟨joining, left⟩ := enabled
    cases h with
    | relinquishing _ _ _ _ closing => simp [joining] at closing
    | joining thread alive agrees idle alone closing way =>
      cases way with
      | warm warm => simp [warm.unfinished] at left
      | leaving here => simp [here, Phase.isOver] at left
      | away _ => exact .inl (.relinquishing alive { agrees with } idle alone rfl left)
  | relinquish =>
    have ready : m.closing = .relinquishing := enabled
    cases h with
    | joining _ _ _ _ _ closing => simp [ready] at closing
    | relinquishing alive agrees idle alone closing left =>
      have ended : r.shutdown = { r with
          requested := .dead, thread := .stopped, display := r.display.release r.id } := by
        simp [Inline.shutdown, alive]
      right
      rw [ended]
      refine ⟨rfl, { agrees with display := ?_ }, idle, alone, .closed left rfl rfl rfl⟩
      simp [Machine.next, Display.release, agrees.display, agrees.id]
  | _ => cases own

end Departure

end Solo

end DisplaySurface
