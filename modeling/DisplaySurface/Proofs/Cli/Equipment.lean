import DisplaySurface.Cli.Sweep
import DisplaySurface.Proofs.Machine.Endurance
import DisplaySurface.Proofs.Machine.Numbering
import DisplaySurface.Proofs.Machine.WakeUps
import DisplaySurface.Proofs.Picture.Pixels
import DisplaySurface.Proofs.Refinement.Contract

/-!
The session of the command line, step by step. Its buffer is never replaced and nobody else uses its display,
so that the buffer alone decides whether the render thread lives, and the books of the session, the picture and
the display keep in step.
-/

namespace DisplaySurface

def BufferShape.isDrawable (s : BufferShape) : Bool :=
  s.format.isRgba && decide (s.size ≤ Canvas.largestStore)

theorem BufferShape.isDrawable_iff (s : BufferShape) : s.isDrawable = true ↔
    (s.format = .rgba8888 ∨ s.format = .rgbx8888) ∧ s.size ≤ 2 ^ 63 - 1 := by
  have rgba : s.format.isRgba = true ↔ s.format = .rgba8888 ∨ s.format = .rgbx8888 := by
    cases s.format <;> simp [PixelFormat.isRgba]
  have largest : Canvas.largestStore = 2 ^ 63 - 1 := by decide
  rw [isDrawable, Bool.and_eq_true, rgba, decide_eq_true_eq, largest]

theorem BufferShape.answer_done_iff (s : BufferShape) : s.answer = .done ↔ s.isDrawable = true := by
  cases rgba : s.format.isRgba with
  | false => simp [answer, isDrawable, rgba]
  | true => by_cases small : s.size ≤ Canvas.largestStore <;> simp [answer, isDrawable, rgba, small]

theorem Painter.start_done_iff {p p' : Painter} {shape : BufferShape} {reply : Reply}
    (h : Renderer.start shape p = (reply, p')) : reply = .done ↔ shape.format.isRgba = true := by
  cases rgba : shape.format.isRgba <;> simp [Renderer.start, start, rgba, Painted.reply] at h <;>
    simp [← h.1]

theorem Painter.lastFrame_of_not_done {p p' : Painter} {target : LiveBuffer} {layers : List Layer}
    {reply : Reply} (h : Renderer.compose target layers p = (reply, p')) (other : reply ≠ .done) :
    p'.lastFrame = p.lastFrame := by
  simp only [Renderer.compose, compose] at h
  split at h
  · cases h
    rfl
  · split at h
    · cases h
      rfl
    · split at h
      · cases h
        rfl
      · split at h
        · cases h
          rfl
        · cases h
          exact absurd rfl other

theorem Painter.pictures_of_done {p p' : Painter} {target : LiveBuffer} {layers : List Layer}
    (started : p.started = true) (fits : p.Fits target) (valid : target.shape.check = .ok ())
    (drawable : target.shape.isDrawable = true)
    (h : Renderer.compose target layers p = (.done, p')) :
    p'.lastFrame.Pictures target p.clearColor layers := by
  simp only [BufferShape.isDrawable, Bool.and_eq_true, decide_eq_true_eq] at drawable
  obtain ⟨q, done, _, pictures⟩ := compose_pictures fits.stocked fits.knows started valid drawable.1
    drawable.2 layers
  simp only [Renderer.compose, done] at h
  cases h
  exact pictures

namespace Phase

/-- Of the frame on its way, whether it is painted. -/
def painted : Phase → Nat
  | presenting _ | publishing _ => 1
  | _ => 0

/-- Of the frame on its way, whether the display has it. -/
def displayed : Phase → Nat
  | publishing _ => 1
  | _ => 0

@[simp] theorem painted_notified (p : Phase) : p.notified.painted = p.painted := by
  cases p <;> rfl

@[simp] theorem displayed_notified (p : Phase) : p.notified.displayed = p.displayed := by
  cases p <;> rfl

end Phase

namespace Cli

open Machine

/-- The renderer and the display are ready for the frames of this shape. A thread that could draw them goes
on until it is told to stop. -/
structure Equipped (shape : BufferShape) (m : Machine Painter) (d : HeadlessDisplay) : Prop where
  live : m.shared.slot.live = (Slot.new shape).live
  fits : m.renderer.Fits (Slot.new shape).live
  starting : ∀ s, m.phase = .starting s → s = shape
  looping : m.phase.isLooping = true → m.renderer.started = true ∧ shape.format.isRgba = true
  going : shape.isDrawable = true → m.shared.isDead = false →
    m.phase.isComing = true ∨ m.phase.isLooping = true
  owned : m.phase.isOver = false → d.owner = some m.resource
  calm : d.failuresLeft = 0

variable {shape : BufferShape} {m : Machine Painter} {d : HeadlessDisplay}
  {c : Machine Painter × HeadlessDisplay}

theorem somewhere_of_work (move : Move m d .work c) : m.phase.isOver = false := by
  cases move with
  | begin here | started _ _ here | startFailed _ _ _ here | startBroke _ _ here | recordFault _ here
  | park here | stop here | take _ here | skip _ here | composed _ _ here | composeFailed _ _ _ here
  | composeBroke _ _ here | presented _ _ here | presentFailed _ _ _ here | presentBroke _ _ here
  | publish _ here | leave _ here => simp [here, Phase.isOver]

theorem Equipped.compose_reply (h : Equipped shape m d) (valid : shape.check = .ok ()) (pinned : Pinned m)
    {frame : Submission} {reply : Reply} {renderer : Painter} (here : m.phase = .composing frame)
    (answer : Renderer.compose frame.buffer frame.layers m.renderer = (reply, renderer)) :
    frame.buffer = (Slot.new shape).live ∧ reply = shape.answer ∧ renderer.started = true ∧
      renderer.Fits (Slot.new shape).live := by
  have live := (pinned.inCall frame.buffer (by simp [here, Phase.buffer?])).trans h.live
  have started := (h.looping (by simp [here, Phase.isLooping])).1
  rw [live] at answer
  exact ⟨live, Painter.compose_reply started h.fits valid answer⟩

theorem Equipped.advance {m' : Machine Painter} {d' : HeadlessDisplay} (h : Equipped shape m d)
    (here : m.phase.isOver = false) (live : m'.shared.slot.live = m.shared.slot.live)
    (fits : m'.renderer.Fits (Slot.new shape).live) (later : m'.phase.isComing = false)
    (looping : m'.phase.isLooping = true → m'.renderer.started = true ∧ shape.format.isRgba = true)
    (going : shape.isDrawable = true → m'.shared.isDead = false → m'.phase.isLooping = true)
    (resource : m'.resource = m.resource) (owner : d'.owner = d.owner)
    (failures : d'.failuresLeft = d.failuresLeft) : Equipped shape m' d' := by
  constructor
  · exact live.trans h.live
  · exact fits
  · intro s starting
    simp [starting, Phase.isComing] at later
  · exact looping
  · exact fun drawable alive => .inr (going drawable alive)
  · intro _
    rw [owner, resource]
    exact h.owned here
  · exact failures.trans h.calm

theorem Equipped.onward {m' : Machine Painter} (h : Equipped shape m d)
    (live : m'.shared.slot.live = m.shared.slot.live) (requested : m'.shared.requested = m.shared.requested)
    (renderer : m'.renderer = m.renderer) (resource : m'.resource = m.resource)
    (phase : m'.phase = m.phase ∨ m'.phase = m.phase.notified) : Equipped shape m' d := by
  have dead : m'.shared.isDead = m.shared.isDead := by simp only [Session.isDead, requested]
  have isOver : m'.phase.isOver = m.phase.isOver := by rcases phase with p | p <;> simp [p]
  have coming : m'.phase.isComing = m.phase.isComing := by rcases phase with p | p <;> simp [p]
  have looping : m'.phase.isLooping = m.phase.isLooping := by rcases phase with p | p <;> simp [p]
  constructor
  · exact live.trans h.live
  · rw [renderer]
    exact h.fits
  · intro s starting
    apply h.starting s
    rcases phase with p | p
    · exact p ▸ starting
    · rcases m.phase.notified_eq_or with same | parked
      · rw [← same, ← p, starting]
      · rw [p, parked] at starting
        cases starting
  · rw [looping, renderer]
    exact h.looping
  · rw [dead, coming, looping]
    exact h.going
  · rw [isOver, resource]
    exact h.owned
  · exact h.calm

theorem Equipped.hopeless (h : Equipped shape m d) (alive : m.shared.isDead = false)
    (coming : m.phase.isComing = false) (looping : m.phase.isLooping = false) :
    shape.isDrawable = false := by
  cases drawable : shape.isDrawable with
  | false => rfl
  | true => rcases h.going drawable alive with here | here <;> simp [coming, looping] at here

theorem step_preserves_equipped (life : Lifetime m) (pinned : Pinned m) (valid : shape.check = .ok ())
    (h : Equipped shape m d) (move : Move m d .work c) : Equipped shape c.1 c.2 := by
  have somewhere := somewhere_of_work move
  cases move with
  | begin here =>
    refine { h with starting := ?_, looping := ?_, going := ?_, owned := fun _ => h.owned somewhere }
    · rintro s ⟨⟩
      rw [h.live]
      rfl
    · simp [Phase.isLooping]
    · exact fun _ _ => .inl rfl
  | started s renderer here reply =>
    obtain rfl := h.starting s here
    have rgba := (Painter.start_done_iff reply).mp rfl
    rcases Painter.start_reply reply with ⟨_, rfl⟩ | ⟨⟨_, other⟩, _⟩
    · exact h.advance somewhere rfl h.fits rfl (fun _ => ⟨rfl, rgba⟩) (fun _ _ => rfl) rfl rfl rfl
    · cases other
  | startFailed s renderer reason here reply =>
    obtain rfl := h.starting s here
    have other : s.isDrawable = false := by
      have refused := (Painter.start_done_iff reply).not.mp (by simp)
      simp [BufferShape.isDrawable, refused]
    rcases Painter.start_reply reply with ⟨done, _⟩ | ⟨_, rfl⟩
    · cases done
    · exact h.advance somewhere rfl h.fits rfl (by simp [Phase.isLooping]) (by simp [other]) rfl rfl rfl
  | startBroke s renderer here reply =>
    rcases Painter.start_reply reply with ⟨other, _⟩ | ⟨⟨_, other⟩, _⟩ <;> cases other
  | recordFault e here =>
    refine h.advance somewhere rfl h.fits rfl (by simp [Phase.isLooping]) ?_ rfl rfl rfl
    intro drawable alive
    have hopeless := h.hopeless alive (by simp [here, Phase.isComing]) (by simp [here, Phase.isLooping])
    simp [hopeless] at drawable
  | stop here halted =>
    have dead := life.stopping_dead (life.stopping_of_halted somewhere halted)
    exact h.advance somewhere rfl h.fits rfl (by simp [Phase.isLooping]) (by simp [dead]) rfl rfl rfl
  | park here | take _ here | skip _ here =>
    have looping := h.looping (by simp [here, Phase.isLooping])
    exact h.advance somewhere rfl h.fits rfl (fun _ => looping) (fun _ _ => rfl) rfl rfl rfl
  | composed frame renderer here reply | composeFailed frame renderer _ here reply =>
    have looping := h.looping (by simp [here, Phase.isLooping])
    obtain ⟨_, _, started, fits⟩ := h.compose_reply valid pinned here reply
    exact h.advance somewhere rfl fits rfl (fun _ => ⟨started, looping.2⟩) (fun _ _ => rfl) rfl rfl rfl
  | composeBroke frame renderer here reply =>
    obtain ⟨_, crashed, _, fits⟩ := h.compose_reply valid pinned here reply
    refine h.advance somewhere rfl fits rfl (by simp [Phase.isLooping]) ?_ rfl rfl rfl
    intro drawable _
    rw [(BufferShape.answer_done_iff shape).mpr drawable] at crashed
    cases crashed
  | presented frame d' here reply =>
    have looping := h.looping (by simp [here, Phase.isLooping])
    rw [HeadlessDisplay.present_of_owner (h.owned somewhere) h.calm] at reply
    cases reply
    exact h.advance somewhere rfl h.fits rfl (fun _ => looping) (fun _ _ => rfl) rfl rfl rfl
  | presentFailed frame d' reason here reply | presentBroke frame d' here reply =>
    rw [HeadlessDisplay.present_of_owner (h.owned somewhere) h.calm] at reply
    cases reply
  | publish r here =>
    have looping := h.looping (by simp [here, Phase.isLooping])
    exact h.advance somewhere rfl h.fits rfl (fun _ => looping) (fun _ _ => rfl) rfl rfl rfl
  | leave crashed here =>
    refine h.advance somewhere (by simp [wakeAll]) h.fits rfl ?_ ?_ rfl rfl rfl
    · simp [wakeAll, Phase.notified, Phase.isLooping]
    · intro drawable alive
      have alive : m.shared.isDead = false := by simpa [wakeAll] using alive
      have hopeless := h.hopeless alive (by simp [here, Phase.isComing]) (by simp [here, Phase.isLooping])
      simp [hopeless] at drawable

def Pictured (shape : BufferShape) (frames : Nat) (s : Snapshot) : Prop :=
  if frames = 0 then s = {}
  else s.fingerprint = 1 ∧ s.width = shape.width ∧ s.height = shape.height

/-- What is kept of the frames agrees, up to the frame on its way. -/
structure Booked (shape : BufferShape) (m : Machine Painter) (d : HeadlessDisplay) : Prop where
  tally : m.shared.tally = { presented := m.shared.tally.presented }
  requested : m.shared.isDead = false →
    m.shared.requested = if m.shared.tally.presented = 0 then .visibleOnNextFrame else .visible
  drawable : 0 < m.shared.tally.presented + m.phase.painted → shape.isDrawable = true
  pictured : Pictured shape (m.shared.tally.presented + m.phase.painted) m.renderer.lastFrame
  accepted : d.presented = m.shared.tally.presented + m.phase.displayed
  imports : d.imports = min (m.shared.tally.presented + m.phase.displayed) 1
  imported : m.phase.isOver = false →
    d.imported = if m.shared.tally.presented + m.phase.displayed = 0 then none else some 1
  publishing : ∀ r, m.phase = .publishing r → r = .presented
  done : ∀ outcome, m.shared.handoff = .done outcome → outcome = .ok () ∧ shape.isDrawable = true

theorem Booked.onward {m' : Machine Painter} (h : Booked shape m d)
    (tally : m'.shared.tally = m.shared.tally) (requested : m'.shared.requested = m.shared.requested)
    (painted : m'.phase.painted = m.phase.painted) (displayed : m'.phase.displayed = m.phase.displayed)
    (lastFrame : m'.renderer.lastFrame = m.renderer.lastFrame)
    (somewhere : m'.phase.isOver = false → m.phase.isOver = false)
    (publishing : ∀ r, m'.phase = .publishing r → m.phase = .publishing r)
    (done : ∀ outcome, m'.shared.handoff = .done outcome → m.shared.handoff = .done outcome) :
    Booked shape m' d := by
  have dead : m'.shared.isDead = m.shared.isDead := by simp only [Session.isDead, requested]
  constructor
  · rw [tally]
    exact h.tally
  · rw [dead, requested, tally]
    exact h.requested
  · rw [tally, painted]
    exact h.drawable
  · rw [tally, painted, lastFrame]
    exact h.pictured
  · rw [tally, displayed]
    exact h.accepted
  · rw [tally, displayed]
    exact h.imports
  · intro here
    rw [tally, displayed]
    exact h.imported (somewhere here)
  · intro r here
    exact h.publishing r (publishing r here)
  · intro outcome finished
    exact h.done outcome (done outcome finished)

theorem Booked.present (h : Booked shape m d) {frame : Frame} (here : m.phase = .presenting frame)
    (fingerprint : frame.buffer.fingerprint = 1) :
    Booked shape { m with phase := .publishing .presented, calls := .present frame :: m.calls }
      (d.record frame) := by
  have drawable := h.drawable (by simp [here, Phase.painted])
  have pictured := h.pictured
  have accepted := h.accepted
  have imports := h.imports
  have imported := h.imported (by simp [here, Phase.isOver])
  simp only [here, Phase.painted, Phase.displayed, Nat.add_zero] at pictured accepted imports imported
  refine { h with drawable := fun _ => drawable, pictured := pictured, accepted := ?_, imports := ?_
                  imported := ?_, publishing := ?_ }
  · exact congrArg Nat.succ accepted
  · show (d.record frame).imports = min (m.shared.tally.presented + 1) 1
    by_cases none : m.shared.tally.presented = 0
    · simp [HeadlessDisplay.record, imported, imports, none]
    · simp [HeadlessDisplay.record, imported, imports, none, fingerprint]
      omega
  · intro _
    show (d.record frame).imported = _
    simp [HeadlessDisplay.record, fingerprint, Phase.displayed]
  · rintro r ⟨⟩
    rfl

/-- The frame that the display accepted is counted. The first one promotes the state that was requested. -/
theorem Booked.publish (h : Booked shape m d) (passing : Passing m)
    (here : m.phase = .publishing .presented) : Booked shape
      { m with shared := m.shared.finishFrame .presented, phase := .seeking }.wakeCallers d := by
  have drawable := h.drawable (by simp [here, Phase.painted])
  have rendering := passing.drawing_rendering (by simp [here, Phase.isDrawing])
  have tally := h.tally
  have pictured := h.pictured
  have accepted := h.accepted
  have imports := h.imports
  have imported := h.imported (by simp [here, Phase.isOver])
  simp only [here, Phase.painted, Phase.displayed] at pictured accepted imports imported
  constructor
  · show m.shared.tally.count .presented = _
    rw [tally]
    rfl
  · intro alive
    have before := h.requested ((Session.finishFrame_isDead .presented m.shared).symm.trans alive)
    show m.shared.requested.promoted = if m.shared.tally.presented + 1 = 0 then _ else _
    rw [before]
    by_cases none : m.shared.tally.presented = 0 <;> simp [none, Visibility.promoted]
  · exact fun _ => drawable
  · exact pictured
  · exact accepted
  · exact imports
  · exact fun _ => imported
  · simp [wakeCallers]
  · intro outcome finished
    have published := (Session.finishFrame_handoff rendering .presented).symm.trans finished
    cases published
    exact ⟨rfl, drawable⟩

theorem step_preserves_booked (life : Lifetime m) (passing : Passing m) (pinned : Pinned m)
    (valid : shape.check = .ok ()) (equipped : Equipped shape m d) (h : Booked shape m d)
    (move : Move m d .work c) : Booked shape c.1 c.2 := by
  have somewhere := somewhere_of_work move
  cases move with
  | begin here =>
    exact h.onward rfl rfl (by simp [here, Phase.painted])
      (by simp [here, Phase.displayed]) rfl (fun _ => somewhere) (by simp) fun _ => id
  | started s renderer here reply | startFailed s renderer reason here reply
  | startBroke s renderer here reply =>
    have same : renderer.lastFrame = m.renderer.lastFrame := by
      rcases Painter.start_reply reply with ⟨_, rfl⟩ | ⟨_, rfl⟩ <;> rfl
    exact h.onward rfl rfl (by simp [here, Phase.painted])
      (by simp [here, Phase.displayed]) same (fun _ => somewhere) (by simp) fun _ => id
  | recordFault _ here | stop here | park here =>
    exact h.onward rfl rfl (by simp [here, Phase.painted])
      (by simp [here, Phase.displayed]) rfl (fun _ => somewhere) (by simp) fun _ => id
  | take frame here =>
    exact h.onward rfl rfl (by simp [here, Phase.painted])
      (by simp [here, Phase.displayed]) rfl (fun _ => somewhere) (by simp) (by simp)
  | skip frame here running ready hidden =>
    have visible := h.requested (life.running_alive running)
    rw [visible] at hidden
    split at hidden <;> cases hidden
  | composed frame renderer here reply =>
    obtain ⟨live, done, _⟩ := equipped.compose_reply valid pinned here reply
    have drawable := (BufferShape.answer_done_iff shape).mp done.symm
    have started := (equipped.looping (by simp [here, Phase.isLooping])).1
    rw [live] at reply
    have pictures := Painter.pictures_of_done started equipped.fits valid drawable reply
    refine { h with drawable := fun _ => drawable, pictured := ?_, accepted := ?_, imports := ?_
                    imported := ?_, publishing := by simp }
    · exact ⟨pictures.fingerprint, pictures.width, pictures.height⟩
    · simpa [here, Phase.displayed] using h.accepted
    · simpa [here, Phase.displayed] using h.imports
    · intro _
      simpa [here, Phase.displayed] using h.imported somewhere
  | composeFailed frame renderer reason here reply =>
    have rgba := (equipped.looping (by simp [here, Phase.isLooping])).2
    obtain ⟨_, failed, _⟩ := equipped.compose_reply valid pinned here reply
    rw [BufferShape.answer, if_pos rgba] at failed
    split at failed <;> cases failed
  | composeBroke frame renderer here reply =>
    have same := Painter.lastFrame_of_not_done reply (by simp)
    exact h.onward rfl rfl (by simp [here, Phase.painted])
      (by simp [here, Phase.displayed]) same (fun _ => somewhere) (by simp) fun _ => id
  | presented frame d' here reply =>
    have live := (pinned.inCall frame.buffer (by simp [here, Phase.buffer?])).trans equipped.live
    rw [HeadlessDisplay.present_of_owner (equipped.owned somewhere) equipped.calm] at reply
    cases reply
    exact h.present here (congrArg _ live)
  | presentFailed frame d' reason here reply | presentBroke frame d' here reply =>
    rw [HeadlessDisplay.present_of_owner (equipped.owned somewhere) equipped.calm] at reply
    cases reply
  | publish r here =>
    obtain rfl := h.publishing r here
    exact h.publish passing here
  | leave crashed here =>
    refine h.onward ?_ ?_ ?_ ?_ rfl (fun _ => somewhere) ?_ ?_
    · simp [wakeAll, Session.exit_eq]
    · simp [wakeAll]
    · simp [here, wakeAll, Phase.notified, Phase.painted]
    · simp [here, wakeAll, Phase.notified, Phase.displayed]
    · simp [wakeAll, Phase.notified]
    · simp [wakeAll]

/-- A session that was made visible, with a render thread that has made no step. -/
def opened (info : DisplayInfo) (shape : BufferShape) (clearColor : Rgba) : Machine Painter :=
  { fresh info info.id shape { clearColor } with
    shared := { Session.new shape with
      thread := .running
      past := [(.stopped, .start)]
      hasRenderer := false
      requested := .visibleOnNextFrame }
    phase := .created }

theorem opened_of_setState {info : DisplayInfo} {clearColor : Rgba} {spawn : Spawn}
    (shown : (fresh info info.id shape ({ clearColor } : Painter)).setState .visibleOnNextFrame spawn =
      (.returned (.ok ()), m)) : m = opened info shape clearColor := by
  cases spawn <;>
    simp [Machine.setState, Session.setState, Session.startThread, fresh, Session.new, Session.starts,
      Session.isDead, Session.apply, Lifecycle.apply, Lifecycle.transition, Lifecycle.after?,
      Lifecycle.isRunning, Visibility.isVisible, Ending.isCrash] at shown
  exact shown.symm

theorem Equipped.initial (shape : BufferShape) (info : DisplayInfo) (clearColor : Rgba) :
    Equipped shape (opened info shape clearColor) { acquireCalls := 1, owner := some info.id } := by
  constructor
  · rfl
  · simp [opened, fresh, Painter.Fits]
  · simp [opened]
  · simp [opened, Phase.isLooping]
  · exact fun _ _ => .inl rfl
  · exact fun _ => rfl
  · rfl

theorem Booked.initial (shape : BufferShape) (info : DisplayInfo) (clearColor : Rgba) :
    Booked shape (opened info shape clearColor) { acquireCalls := 1, owner := some info.id } := by
  constructor
  · rfl
  · exact fun _ => rfl
  · simp [opened, fresh, Session.new, Phase.painted]
  · rfl
  · rfl
  · rfl
  · exact fun _ => rfl
  · simp [opened]
  · simp [opened, fresh, Session.new]

end Cli

end DisplaySurface
