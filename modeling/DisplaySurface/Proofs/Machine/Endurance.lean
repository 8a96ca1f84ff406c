import DisplaySurface.Proofs.Machine.Backing
import DisplaySurface.Proofs.Machine.Flight
import DisplaySurface.Proofs.Machine.Outcomes
import DisplaySurface.Proofs.Machine.Pinning
import DisplaySurface.Proofs.Picture.Store

/-!
How long a session draws. Its renderer paints into memory and its display has no screen, so whether the
render thread lives to the next frame is a matter of the buffer alone. A shape that is accepted may still
be of a size that nobody can allocate, and that the thread finds out when it draws.
-/

namespace DisplaySurface

/-- Whether the thread is past the start of its renderer, and has not left. -/
def Phase.isLooping : Phase → Bool
  | seeking | parked | composing _ | presenting _ | publishing _ => true
  | _ => false

def Phase.isEarly : Phase → Bool
  | absent | created | starting _ | failing _ => true
  | _ => false

def Phase.isComing : Phase → Bool
  | created | starting _ => true
  | _ => false

@[simp] theorem Phase.isLooping_notified (p : Phase) : p.notified.isLooping = p.isLooping := by
  cases p <;> rfl

@[simp] theorem Phase.isEarly_notified (p : Phase) : p.notified.isEarly = p.isEarly := by
  cases p <;> rfl

@[simp] theorem Phase.isComing_notified (p : Phase) : p.notified.isComing = p.isComing := by
  cases p <;> rfl

/-- A shape whose pixels can be drawn and which is still too large for one allocation. -/
def BufferShape.isOverlarge (s : BufferShape) : Bool :=
  s.format.isRgba && decide (Canvas.largestStore < s.size)

theorem BufferShape.answer_crashed_iff (s : BufferShape) :
    s.answer = .crashed ↔ s.isOverlarge = true := by
  cases rgba : s.format.isRgba with
  | false => simp [answer, isOverlarge, rgba]
  | true =>
    by_cases small : s.size ≤ Canvas.largestStore
    · simp [answer, isOverlarge, rgba, small]
    · simp [answer, isOverlarge, rgba, small, Nat.not_le.mp small]

def Event.isOrderly {δ : Type} : Event δ → Bool
  | .shutdown | .join | .relinquish | .outside _ => false
  | _ => true

theorem HeadlessDisplay.present_of_owner {resource : UInt64} {frame : Frame} {d : HeadlessDisplay}
    (owned : d.owner = some resource) (calm : d.failuresLeft = 0) :
    Display.present resource frame d = (.done, d.record frame) := by
  simp [Display.present, HeadlessDisplay.present, owned, calm]

namespace Machine

def undisturbed : System ((Machine Painter × HeadlessDisplay) × Journal) (Event HeadlessDisplay) :=
  (journaled Painter HeadlessDisplay).only (·.isOrderly = true)

instance (c : (Machine Painter × HeadlessDisplay) × Journal) (e : Event HeadlessDisplay) :
    Decidable (undisturbed.Enabled c e) :=
  inferInstanceAs (Decidable ((journaled Painter HeadlessDisplay).Enabled c e ∧ e.isOrderly = true))

/-- Once its renderer was started the thread is at work, and recorded to be. -/
def Serving (m : Machine Painter) : Prop :=
  m.renderer.started = true →
    m.phase.isLooping = true ∧ m.shared.thread = .running ∧ m.shared.fault = none

instance (m : Machine Painter) : Decidable m.Serving :=
  inferInstanceAs (Decidable (_ → _))

def overtaxes (m : Machine Painter) : Event HeadlessDisplay → Bool
  | .work => match m.phase with
    | .composing frame => frame.buffer.shape.isOverlarge
    | _ => false
  | _ => false

structure Lasting (m : Machine Painter) (d : HeadlessDisplay) : Prop where
  alive : m.shared.isDead = false
  valid : m.shared.slot.live.shape.check = .ok ()
  fits : m.renderer.Fits m.shared.slot.live
  early : m.phase.isEarly = true → m.renderer.started = false
  coming : m.phase.isComing = true → m.shared.fault = none
  looping : m.phase.isLooping = true → m.renderer.started = true ∧ m.shared.fault = none
  owned : d.owner = some m.resource
  calm : d.failuresLeft = 0

namespace Lasting

variable {m m' : Machine Painter} {d d' : HeadlessDisplay}

theorem initial {info : DisplayInfo} {shape : BufferShape} {clearColor : Rgba} {d d₁ : HeadlessDisplay}
    {m₀ : Machine Painter} (made : Machine.create info shape { clearColor } d = (.ok m₀, d₁))
    (calm : d.failuresLeft = 0) :
    m₀ = Machine.fresh info info.id shape { clearColor } ∧ Lasting m₀ d₁ := by
  cases valid : shape.check with
  | error e => simp [Machine.create, valid] at made
  | ok =>
    by_cases refusing : d.refusing = true
    · simp [Machine.create, HeadlessDisplay.acquire, valid, refusing] at made
    · cases owner : d.owner with
      | some other => simp [Machine.create, HeadlessDisplay.acquire, valid, refusing, owner] at made
      | none =>
        simp only [Machine.create, HeadlessDisplay.acquire, valid, refusing, owner, Bool.false_eq_true,
          if_false] at made
        cases made
        refine ⟨rfl, rfl, valid, ?_, fun _ => rfl, fun _ => rfl, ?_, rfl, calm⟩
        · simp [Machine.fresh, Painter.Fits]
        · simp [Machine.fresh, Phase.isLooping]

theorem onward (h : Lasting m d) (dead : m'.shared.isDead = m.shared.isDead)
    (live : m'.shared.slot.live = m.shared.slot.live) (fault : m'.shared.fault = m.shared.fault)
    (renderer : m'.renderer = m.renderer) (resource : m'.resource = m.resource)
    (phase : m'.phase = m.phase ∨ m'.phase = m.phase.notified) : Lasting m' d := by
  have early : m'.phase.isEarly = m.phase.isEarly := by rcases phase with p | p <;> simp [p]
  have coming : m'.phase.isComing = m.phase.isComing := by rcases phase with p | p <;> simp [p]
  have looping : m'.phase.isLooping = m.phase.isLooping := by rcases phase with p | p <;> simp [p]
  constructor
  · simpa only [dead] using h.alive
  · simpa only [live] using h.valid
  · simpa only [live, renderer] using h.fits
  · simpa only [early, renderer] using h.early
  · simpa only [coming, fault] using h.coming
  · simpa only [looping, renderer, fault] using h.looping
  · simpa only [resource] using h.owned
  · exact h.calm

theorem advance (h : Lasting m d) (shared : m'.shared.isDead = false)
    (live : m'.shared.slot.live = m.shared.slot.live)
    (fits : m'.renderer.Fits m.shared.slot.live) (late : m'.phase.isEarly = false)
    (looping : m'.phase.isLooping = true → m'.renderer.started = true ∧ m'.shared.fault = none)
    (resource : m'.resource = m.resource) (owner : d'.owner = d.owner)
    (failures : d'.failuresLeft = d.failuresLeft) : Lasting m' d' := by
  constructor
  · exact shared
  · simpa only [live] using h.valid
  · simpa only [live] using fits
  · simp [late]
  · intro coming
    cases here : m'.phase <;> simp_all [Phase.isComing, Phase.isEarly]
  · exact looping
  · simpa only [resource, owner] using h.owned
  · simpa only [failures] using h.calm

theorem serving_iff (h : Lasting m d) (life : Lifetime m) :
    m.Serving ↔ (m.renderer.started = true → m.phase.isLooping = true) := by
  constructor
  · exact fun serving started => (serving started).1
  · intro loops started
    have looping := loops started
    have here : m.phase.isOver = false := by
      cases p : m.phase <;> simp_all [Phase.isLooping, Phase.isOver]
    refine ⟨looping, ?_, (h.looping looping).2⟩
    cases thread : m.shared.thread with
    | running => rfl
    | stopping =>
      have alive := h.alive
      simp [life.stopping_dead thread] at alive
    | stopped => exact absurd thread (life.not_stopped here)

/-- The call is made with the live buffer, which the store of the renderer fits. -/
theorem compose_reply (h : Lasting m d) (pinned : Pinned m) {frame : Submission} {reply : Reply}
    {renderer : Painter} (here : m.phase = .composing frame)
    (answer : Renderer.compose frame.buffer frame.layers m.renderer = (reply, renderer)) :
    reply = frame.buffer.shape.answer ∧ renderer.started = true ∧
      renderer.Fits m.shared.slot.live := by
  have live := pinned.inCall frame.buffer (by simp [here, Phase.buffer?])
  have looping := h.looping (by simp [here, Phase.isLooping])
  rw [← live]
  exact Painter.compose_reply looping.1 (live ▸ h.fits) (live ▸ h.valid) answer

theorem present_reply (h : Lasting m d) {frame : Frame} {reply : Reply} {d' : HeadlessDisplay}
    (answer : Display.present m.resource frame d = (reply, d')) :
    reply = .done ∧ d'.owner = d.owner ∧ d'.failuresLeft = d.failuresLeft := by
  rw [HeadlessDisplay.present_of_owner h.owned h.calm] at answer
  cases answer
  exact ⟨rfl, rfl, rfl⟩

end Lasting

variable {m : Machine Painter} {d : HeadlessDisplay}

theorem step_preserves_lasting {e : Event HeadlessDisplay} {c : Machine Painter × HeadlessDisplay}
    (life : Lifetime m) (pinned : Pinned m) (h : Lasting m d) (orderly : e.isOrderly = true)
    (move : Move m d e c) : Lasting c.1 c.2 := by
  cases move with
  | requestRefused | acquireRefused | acquire | rejected | releasedIdle | discarded | offerRefused
  | reallocateRefused | waitOn | strayWakeCaller => exact h.onward rfl rfl rfl rfl rfl (.inl rfl)
  | request wanted spawn alive legal =>
    exact h.onward (Session.isDead_request alive legal) rfl rfl rfl rfl (.inl rfl)
  | handOver => exact h.onward rfl rfl rfl rfl rfl (.inr rfl)
  | strayWakeRender here =>
    exact h.onward rfl rfl rfl rfl rfl (.inr (by simp [here, Phase.notified]))
  | collect => exact h.onward (by simp) (by simp) (by simp) rfl rfl (.inl rfl)
  | start wanted alive visible stopped sound present =>
    have early := h.early (by simp [life.renderer_absent present, Phase.isEarly])
    have legal := Visibility.ne_dead_of_isVisible visible
    constructor
    · simp [Session.isDead, legal]
    · exact h.valid
    · exact h.fits
    · exact fun _ => early
    · exact fun _ => sound
    · simp [Phase.isLooping]
    · exact h.owned
    · exact h.calm
  | startRefused wanted reason alive visible stopped sound present
  | startCrashed wanted crash alive visible stopped sound present =>
    have absent := life.renderer_absent present
    have early := h.early (by simp [absent, Phase.isEarly])
    constructor
    · exact h.alive
    · exact h.valid
    · exact h.fits
    · exact fun _ => early
    · simp [absent, Phase.isComing]
    · simp [absent, Phase.isLooping]
    · exact h.owned
    · exact h.calm
  | reallocate shape alive idle valid =>
    constructor
    · exact alive
    · exact valid
    · exact h.fits.onward (Nat.lt_succ_self _)
    · exact h.early
    · exact h.coming
    · exact h.looping
    · exact h.owned
    · exact h.calm
  | shutdownAgain | shutdownRunning | shutdownHalted | join | relinquish | outside => cases orderly
  | begin here =>
    have early := h.early (by simp [here, Phase.isEarly])
    have sound := h.coming (by simp [here, Phase.isComing])
    exact ⟨h.alive, h.valid, h.fits, fun _ => early, fun _ => sound, by simp [Phase.isLooping], h.owned,
      h.calm⟩
  | started shape renderer here reply =>
    have sound := h.coming (by simp [here, Phase.isComing])
    rcases Painter.start_reply reply with ⟨_, rfl⟩ | ⟨⟨_, other⟩, _⟩
    · exact h.advance h.alive rfl h.fits rfl (fun _ => ⟨rfl, sound⟩) rfl rfl rfl
    · cases other
  | startFailed shape renderer reason here reply =>
    have early := h.early (by simp [here, Phase.isEarly])
    rcases Painter.start_reply reply with ⟨other, _⟩ | ⟨_, rfl⟩
    · cases other
    · exact ⟨h.alive, h.valid, h.fits, fun _ => early, by simp [Phase.isComing],
        by simp [Phase.isLooping], h.owned, h.calm⟩
  | startBroke shape renderer here reply =>
    rcases Painter.start_reply reply with ⟨other, _⟩ | ⟨⟨_, other⟩, _⟩ <;> cases other
  | recordFault e here => exact h.advance h.alive rfl h.fits rfl (by simp [Phase.isLooping]) rfl rfl rfl
  | stop here => exact h.advance h.alive rfl h.fits rfl (by simp [Phase.isLooping]) rfl rfl rfl
  | park here | take _ here | skip _ here =>
    have looping := h.looping (by simp [here, Phase.isLooping])
    exact h.advance h.alive rfl h.fits rfl (fun _ => looping) rfl rfl rfl
  | composed frame renderer here reply | composeFailed frame renderer _ here reply
  | composeBroke frame renderer here reply =>
    have looping := h.looping (by simp [here, Phase.isLooping])
    obtain ⟨_, started, fits⟩ := h.compose_reply pinned here reply
    exact h.advance h.alive rfl fits rfl (fun _ => ⟨started, looping.2⟩) rfl rfl rfl
  | presented frame d' here reply | presentFailed frame d' _ here reply
  | presentBroke frame d' here reply =>
    have looping := h.looping (by simp [here, Phase.isLooping])
    obtain ⟨_, owner, failures⟩ := h.present_reply reply
    exact h.advance h.alive rfl h.fits rfl (fun _ => looping) rfl owner failures
  | publish r here =>
    have looping := h.looping (by simp [here, Phase.isLooping])
    refine h.advance ?_ rfl h.fits rfl (fun _ => looping) rfl rfl rfl
    exact (Session.finishFrame_isDead r m.shared).trans h.alive
  | leave crashed here =>
    refine h.advance ?_ ?_ h.fits rfl (by simp [wakeAll, Phase.notified, Phase.isLooping]) rfl rfl rfl
    · simpa [wakeAll] using h.alive
    · simp [wakeAll]

theorem overtaxes_iff {frame : Submission} (here : m.phase = .composing frame) :
    m.overtaxes .work = true ↔ frame.buffer.shape.answer = .crashed := by
  rw [BufferShape.answer_crashed_iff]
  simp [overtaxes, here]

theorem step_serves_iff {e : Event HeadlessDisplay} {c : Machine Painter × HeadlessDisplay}
    (life : Lifetime m) (pinned : Pinned m) (h : Lasting m d) (orderly : e.isOrderly = true)
    (serving : m.Serving) (move : Move m d e c) : c.1.Serving ↔ ¬ m.overtaxes e = true := by
  have life' := step_preserves_lifetime life move
  have lasting' := step_preserves_lasting life pinned h orderly move
  have loops := (h.serving_iff life).mp serving
  have unstarted (early : m.phase.isEarly = true) {p : Prop} (started : m.renderer.started = true) :
      p := by
    simp [h.early early] at started
  rw [lasting'.serving_iff life']
  cases move with
  | requestRefused | request | startRefused | startCrashed | acquireRefused | acquire | rejected
  | releasedIdle | discarded | offerRefused | reallocateRefused | reallocate | waitOn | collect
  | strayWakeCaller => exact iff_of_true loops (by simp [overtaxes])
  | start _ _ _ _ _ present =>
    have absent := life.renderer_absent present
    exact iff_of_true (unstarted (by simp [absent, Phase.isEarly])) (by simp [overtaxes])
  | handOver => exact iff_of_true (by simpa using loops) (by simp [overtaxes])
  | strayWakeRender => exact iff_of_true (fun _ => rfl) (by simp [overtaxes])
  | shutdownAgain | shutdownRunning | shutdownHalted | join | relinquish | outside => cases orderly
  | begin here | recordFault _ here =>
    exact iff_of_true (unstarted (by simp [here, Phase.isEarly])) (by simp [overtaxes, here])
  | startFailed shape renderer reason here reply =>
    rcases Painter.start_reply reply with ⟨other, _⟩ | ⟨_, rfl⟩
    · cases other
    · exact iff_of_true (unstarted (by simp [here, Phase.isEarly])) (by simp [overtaxes, here])
  | startBroke shape renderer here reply =>
    rcases Painter.start_reply reply with ⟨other, _⟩ | ⟨⟨_, other⟩, _⟩ <;> cases other
  | started _ _ here | park here | take _ here | skip _ here | publish _ here | presented _ _ here
  | presentFailed _ _ _ here => exact iff_of_true (fun _ => rfl) (by simp [overtaxes, here])
  | presentBroke frame d' here reply => cases (h.present_reply reply).1
  | stop here halted =>
    have started := (h.looping (by simp [here, Phase.isLooping])).1
    exact absurd (serving started).2.1 halted
  | composed frame renderer here reply | composeFailed frame renderer _ here reply =>
    have answer := (h.compose_reply pinned here reply).1
    refine iff_of_true (fun _ => rfl) ?_
    simp [overtaxes_iff here, ← answer]
  | composeBroke frame renderer here reply =>
    obtain ⟨answer, started, _⟩ := h.compose_reply pinned here reply
    refine iff_of_false ?_ (not_not.mpr ((overtaxes_iff here).mpr answer.symm))
    intro loops'
    cases loops' started
  | leave crashed here =>
    refine iff_of_true ?_ (by simp [overtaxes, here])
    intro started
    simp [here, Phase.isLooping] at loops
    simp [wakeAll, loops] at started

structure Served (m : Machine Painter) (j : Journal) : Prop where
  begun : ∀ o buffer layers, .drawn o buffer layers ∈ j.entries → m.renderer.started = true
  composed : ∀ o reply buffer layers, .composed o reply ∈ j.entries →
    .drawn o buffer layers ∈ j.entries → reply = buffer.shape.answer
  shown : ∀ o frame reply, .shown o frame reply ∈ j.entries → reply = .done

namespace Served

variable {m m' : Machine Painter} {j j' : Journal}

/-- What is new in the journal is to be in order, and what the renderer replied is to fit the drawing
wherever one of the two is new. -/
theorem written (h : Served m j) (more : List Entry) (entries : j'.entries = more ++ j.entries)
    (begun : ∀ o buffer layers, .drawn o buffer layers ∈ more → m'.renderer.started = true)
    (drawn : ∀ o reply buffer layers, .drawn o buffer layers ∈ more →
      .composed o reply ∈ more ++ j.entries → reply = buffer.shape.answer)
    (composed : ∀ o reply buffer layers, .composed o reply ∈ more →
      .drawn o buffer layers ∈ j.entries → reply = buffer.shape.answer)
    (shown : ∀ o frame reply, .shown o frame reply ∈ more → reply = .done)
    (started : m.renderer.started = true → m'.renderer.started = true) : Served m' j' := by
  constructor
  · rw [entries]
    intro o buffer layers mem
    rcases List.mem_append.mp mem with now | before
    · exact begun o buffer layers now
    · exact started (h.begun o buffer layers before)
  · rw [entries]
    intro o reply buffer layers replied asked
    rcases List.mem_append.mp asked with now | before
    · exact drawn o reply buffer layers now replied
    · rcases List.mem_append.mp replied with now | replied
      · exact composed o reply buffer layers now before
      · exact h.composed o reply buffer layers replied before
  · rw [entries]
    intro o frame reply mem
    rcases List.mem_append.mp mem with now | before
    · exact shown o frame reply now
    · exact h.shown o frame reply before

theorem onward (h : Served m j) (entries : j'.entries = j.entries)
    (started : m.renderer.started = true → m'.renderer.started = true) : Served m' j' := by
  refine h.written [] entries ?_ ?_ ?_ ?_ started <;> simp

theorem call (h : Served m j) {e : Entry} (plain : e.isPlain = true)
    (entries : j'.entries = e :: j.entries)
    (started : m.renderer.started = true → m'.renderer.started = true) : Served m' j' := by
  have apart {f : Entry} (frame : f.isPlain = false) : f ∉ [e] := by
    rw [List.mem_singleton]
    rintro rfl
    simp [plain] at frame
  refine h.written [e] entries ?_ ?_ ?_ ?_ started
  · exact fun _ _ _ now => absurd now (apart rfl)
  · exact fun _ _ _ _ now => absurd now (apart rfl)
  · exact fun _ _ _ _ now => absurd now (apart rfl)
  · exact fun _ _ _ now => absurd now (apart rfl)

end Served

variable {j : Journal}

theorem step_preserves_served {e : Event HeadlessDisplay} {c : Machine Painter × HeadlessDisplay}
    (passing : Passing m) (pinned : Pinned m) (booked : Booked m j)
    (lasting : Lasting m d) (h : Served m j) (orderly : e.isOrderly = true) (move : Move m d e c) :
    Served c.1 (j.noted m d e) := by
  cases move with
  | requestRefused | acquireRefused | acquire | reallocateRefused | reallocate | request | start
  | startRefused | startCrashed | strayWakeRender | strayWakeCaller => exact h.onward rfl id
  | rejected ticket b err unused unreturned invalid =>
    rw [Journal.noted_of_invalid invalid]
    exact h.call rfl rfl id
  | releasedIdle ticket b unused unreturned valid off =>
    rw [Journal.noted_of_off valid off]
    exact h.call rfl rfl id
  | discarded ticket b unused unreturned valid alive hidden =>
    rw [Journal.noted_of_hidden valid alive hidden]
    exact h.call rfl rfl id
  | offerRefused ticket b unused unreturned valid alive visible running occupied =>
    rw [Journal.noted_of_occupied valid alive visible running occupied]
    exact h.call rfl rfl id
  | handOver ticket b unused unreturned valid alive running visible idle =>
    rw [Journal.noted_of_idle valid alive visible running idle]
    exact h.call rfl rfl id
  | shutdownAgain | shutdownRunning | shutdownHalted | join | relinquish | outside => cases orderly
  | begin here | startFailed _ _ _ here | startBroke _ _ here | started _ _ here
  | recordFault _ here =>
    have noted : j.noted m d .work = j := by simp [Journal.noted, here]
    have early := lasting.early (by simp [here, Phase.isEarly])
    exact h.onward (by rw [noted]) (by simp [early])
  | park here running none =>
    exact h.onward (by rw [Journal.noted_of_empty here running none]) id
  | stop here halted => exact h.onward (by rw [Journal.noted_of_halted here halted]) id
  | take frame here running ready visible =>
    rw [Journal.noted_of_visible here running ready visible]
    obtain ⟨t, owner, _, untaken⟩ := booked.ready frame ready
    have started := (lasting.looping (by simp [here, Phase.isLooping])).1
    refine h.written [_, _] rfl (fun _ _ _ _ => started) ?_ (by simp) (by simp) id
    -- a frame that was not taken cannot have been composed
    intro o reply buffer layers asked replied
    obtain ⟨rfl, -, -⟩ : o = j.offered ∧ _ := by simpa using asked
    have composed : .composed j.offered reply ∈ j.entries := by simpa using replied
    obtain ⟨requested, taken⟩ := booked.sound.taken_of_composed composed
    exact absurd (owner ▸ taken) (untaken requested)
  | skip frame here running ready hidden =>
    rw [Journal.noted_of_skip here running ready hidden]
    refine h.written [_] rfl ?_ ?_ ?_ ?_ id <;> simp
  | composed frame renderer here reply | composeFailed frame renderer _ here reply
  | composeBroke frame renderer here reply =>
    rw [Journal.noted_of_composing here reply]
    obtain ⟨answer, started, _⟩ := lasting.compose_reply pinned here reply
    refine h.written [_] rfl (by simp) (by simp) ?_ (by simp) fun _ => started
    intro o r buffer layers replied drawn
    obtain ⟨rfl, rfl⟩ : o = j.inHand ∧ r = _ := by simpa using replied
    obtain ⟨rfl, _⟩ := booked.sound.drawn_unique drawn (booked.composing frame here).1
    exact answer
  | presented frame d' here reply | presentFailed frame d' _ here reply
  | presentBroke frame d' here reply =>
    rw [Journal.noted_of_presenting here reply]
    have answer := (lasting.present_reply reply).1
    refine h.written [_] rfl (by simp) (by simp) (by simp) ?_ id
    intro o f r shown
    obtain ⟨-, -, rfl⟩ : o = j.inHand ∧ f = _ ∧ r = _ := by simpa using shown
    exact answer
  | publish r here =>
    have rendering := passing.drawing_rendering (by simp [here, Phase.isDrawing])
    exact h.onward (by rw [Journal.noted_of_publishing here rendering]) id
  | leave crashed here =>
    rw [Journal.noted_of_leaving here]
    exact h.call rfl rfl id
  | waitOn ticket woken must clean => exact h.onward (by rw [Journal.noted_of_wait must clean]) id
  | collect ticket woken settled =>
    rw [Journal.noted_of_settled settled]
    exact h.call rfl rfl id

structure Enduring (c : (Machine Painter × HeadlessDisplay) × Journal) : Prop where
  followed : Followed c
  pinned : Pinned c.1.1
  lasting : Lasting c.1.1 c.1.2
  served : Served c.1.1 c.2

theorem step_preserves_enduring {c : (Machine Painter × HeadlessDisplay) × Journal}
    {e : Event HeadlessDisplay} (h : Enduring c) (enabled : undisturbed.Enabled c e) :
    Enduring (undisturbed.next c e) := by
  obtain ⟨followed, pinned, lasting, served⟩ := h
  have move := next_move c.1.1 c.1.2 e enabled.1.1
  exact ⟨step_preserves_followed followed enabled.1,
    step_preserves_pinned followed.passing pinned move,
    step_preserves_lasting followed.life pinned lasting enabled.2 move,
    step_preserves_served followed.passing pinned followed.booked lasting served
      enabled.2 move⟩

theorem run_enduring {c : (Machine Painter × HeadlessDisplay) × Journal}
    {es : List (Event HeadlessDisplay)} (h : Enduring c) (valid : undisturbed.Valid c es) :
    Enduring (undisturbed.run c es) := by
  induction es generalizing c with
  | nil => exact h
  | cons e es ih => exact ih (step_preserves_enduring h valid.1) valid.2

theorem Enduring.initial {info : DisplayInfo} {shape : BufferShape} {clearColor : Rgba}
    {d d₁ : HeadlessDisplay} {m₀ : Machine Painter}
    (made : Machine.create info shape { clearColor } d = (.ok m₀, d₁)) (calm : d.failuresLeft = 0) :
    Enduring ((m₀, d₁), {}) := by
  obtain ⟨rfl, lasting⟩ := Lasting.initial made calm
  refine ⟨Followed.initial _ _ _ _ _, Pinned.initial _ _ _ _, lasting, ?_⟩
  constructor <;> simp

theorem Enduring.outcome {c : (Machine Painter × HeadlessDisplay) × Journal} (h : Enduring c)
    (serving : c.1.1.Serving) {newer older : List Entry} {t : Nat} {outcome : Outcome}
    (entries : c.2.entries = newer ++ .returned t outcome :: older) {buffer : LiveBuffer}
    {layers : List Layer} (drawn : .drawn (some t) buffer layers ∈ older) :
    if buffer.shape.format.isRgba then outcome = .ok () ∧ ∃ frame, .shown (some t) frame .done ∈ older
    else outcome = .error (.composeFailed (PaintError.unsupported buffer.shape.format).message) := by
  have known {e : Entry} (mem : e ∈ older) : e ∈ c.2.entries := by simp [entries, mem]
  have started := h.served.begun _ _ _ (known drawn)
  have stays : .exited ∉ c.2.entries := by
    intro left
    have looping := (serving started).1
    simp [h.followed.telling.gone left, Phase.isLooping] at looping
  have justified : Justified older (.returned t outcome) := by
    have sound := h.followed.booked.sound
    rw [entries] at sound
    exact sound.of_append.1
  have sound : Sound older := by
    have sound := h.followed.booked.sound
    rw [entries] at sound
    exact sound.of_append.2
  have answer {reply : Reply} (composed : .composed (some t) reply ∈ older) :=
    h.served.composed _ _ _ _ (known composed) (known drawn)
  rcases justified with fresh | ⟨_, (ended | ⟨_, _, _, _, rfl, cut⟩) | ⟨_, untaken⟩⟩
  · exact absurd rfl (fresh _ drawn)
  · cases ended with
    | presented frame shown =>
      have done := answer (sound.composed_of_shown shown)
      cases rgba : buffer.shape.format.isRgba with
      | false => simp [BufferShape.answer, rgba] at done
      | true => exact ⟨rfl, frame, shown⟩
    | discarded requested taken hidden => simp [sound.visible_of_drawn drawn taken] at hidden
    | composeFailed reason composed =>
      have failed := answer composed
      cases rgba : buffer.shape.format.isRgba with
      | false => simpa [BufferShape.answer, rgba] using failed
      | true =>
        by_cases small : buffer.shape.size ≤ Canvas.largestStore <;>
          simp [BufferShape.answer, rgba, small] at failed
    | presentFailed reason frame shown => cases h.served.shown _ _ _ (known shown)
  · rcases cut with shut | left
    · have dead := h.followed.telling.dead (known (by simp [shut]))
      simp [h.lasting.alive] at dead
    · exact absurd (known (by simp [left])) stays
  · obtain ⟨requested, taken⟩ := sound.taken_of_drawn drawn
    exact absurd taken (untaken _ requested)

theorem reallocate_refused {σ : Type} {m : Machine σ} {shape : BufferShape}
    (bad : shape.check ≠ .ok ()) : ∃ e, m.reallocate shape = (.error e, m) := by
  cases dead : m.shared.isDead with
  | true => exact ⟨.sessionDead, by simp [Machine.reallocate, Session.reallocate, dead]⟩
  | false =>
    cases idle : m.shared.handoff.isIdle with
    | false => exact ⟨.busy, by simp [Machine.reallocate, Session.reallocate, dead, idle]⟩
    | true =>
      cases check : shape.check with
      | ok => exact absurd check bad
      | error e =>
        exact ⟨.invalidState e.message, by
          simp [Machine.reallocate, Session.reallocate, dead, idle, check]⟩

/-- A session that was made paints until its thread comes to drawing into a buffer that cannot be
allocated, and no longer. Shapes that cannot be addressed are refused. While the thread is at work, a
release whose frame was drawn has returned that the format is not drawn, or it was presented, whatever
was released before; and one that waits has an outcome after at most five steps of the thread. -/
theorem serving_throughout_iff {info : DisplayInfo} {shape : BufferShape} {clearColor : Rgba}
    {d d₁ : HeadlessDisplay} {m₀ : Machine Painter} {es : List (Event HeadlessDisplay)}
    (made : Machine.create info shape { clearColor } d = (.ok m₀, d₁)) (calm : d.failuresLeft = 0)
    (valid : undisturbed.Valid ((m₀, d₁), {}) es) :
    let c := undisturbed.run ((m₀, d₁), {}) es
    (undisturbed.Throughout (fun c => c.1.1.Serving) ((m₀, d₁), {}) es ↔
      undisturbed.Avoids (fun c e => c.1.1.overtaxes e = true) ((m₀, d₁), {}) es) ∧
    (∀ other, other.check ≠ .ok () → ∃ e, c.1.1.reallocate other = (.error e, c.1.1)) ∧
    (c.1.1.Serving →
      (∀ newer t outcome older, c.2.entries = newer ++ .returned t outcome :: older →
        ∀ buffer layers, .drawn (some t) buffer layers ∈ older →
          if buffer.shape.format.isRgba then
            outcome = .ok () ∧ ∃ frame, .shown (some t) frame .done ∈ older
          else
            outcome = .error (.composeFailed (PaintError.unsupported buffer.shape.format).message)) ∧
      (c.1.1.renderer.started = true → ∀ t ∈ c.1.1.waiting, ∀ fs,
        (system Painter HeadlessDisplay).Valid c.1 fs → (∀ e ∈ fs, e ≠ .resume t) →
          ((system Painter HeadlessDisplay).run c.1 fs).1.shared.mustWait = false ∨
            ((system Painter HeadlessDisplay).run c.1 fs).1.phase.canWork = true ∧
              fs.countP (·.isWork) < 6)) := by
  intro c
  have initial := Enduring.initial made calm
  have enduring : Enduring c := run_enduring initial valid
  refine ⟨?_, fun other bad => reallocate_refused bad, fun serving => ⟨?_, ?_⟩⟩
  · refine System.throughout_iff_avoids (I := Enduring) ?_ ?_ initial ?_ valid
    · exact fun c e h enabled => step_preserves_enduring h enabled
    · intro c e h serving enabled
      exact step_serves_iff h.followed.life h.pinned h.lasting enabled.2 serving
        (next_move c.1.1 c.1.2 e enabled.1.1)
    · obtain ⟨rfl, _⟩ := Lasting.initial made calm
      rintro ⟨⟩
  · intro newer t outcome older entries buffer layers drawn
    exact enduring.outcome serving entries drawn
  · intro started t waits fs valid' others
    have looping := (serving started).1
    have clean := enduring.followed.life.clean (by
      intro absent
      simp [absent, Phase.isLooping] at looping)
    rcases trace_nears_outcome enduring.followed.life enduring.followed.passing clean waits valid'
      others with settled | ⟨working, left⟩
    · exact .inl settled
    · have soon := Phase.left_le c.1.1.phase
      have more := Phase.left_pos working
      exact .inr ⟨working, by omega⟩

/-- A format that is not drawn, and then one that is. -/
theorem serving_throughout_other_format :
    let plain : BufferShape := ⟨1, 1, 1, .rgba8888, .none, 1⟩
    let other : BufferShape := ⟨1, 1, 1, .rgb565, .none, 1⟩
    let m₀ : Machine Painter := Machine.fresh ⟨1, "panel", 1, 1, 0⟩ 1 plain { clearColor := ⟨0, 0, 0, 255⟩ }
    let d₁ : HeadlessDisplay := { owner := some 1, acquireCalls := 1 }
    let frame (t n : Nat) (shape : BufferShape) : List (Event HeadlessDisplay) :=
      [.reallocate shape, .acquire, .release t ⟨shape, n, n, []⟩, .work, .work, .work]
    let es := [.setState .visible .started, .work, .work] ++ frame 0 2 other ++ [.resume 0] ++
      frame 1 3 plain ++ [.work, .resume 1]
    Machine.create ⟨1, "panel", 1, 1, 0⟩ plain { clearColor := ⟨0, 0, 0, 255⟩ } {} = (.ok m₀, d₁) ∧
      ({} : HeadlessDisplay).failuresLeft = 0 ∧ undisturbed.Valid ((m₀, d₁), {}) es ∧
      undisturbed.Throughout (fun c => c.1.1.Serving) ((m₀, d₁), {}) es ∧
      (undisturbed.run ((m₀, d₁), {}) es).1.1.returned = [(1, .ok ()),
        (0, .error (.composeFailed "SoftwareRenderer only draws 32-bit RGBA, got Rgb565"))] := by
  intro plain other m₀ d₁ frame es
  have made : Machine.create ⟨1, "panel", 1, 1, 0⟩ plain { clearColor := ⟨0, 0, 0, 255⟩ } {} =
      (.ok m₀, d₁) := rfl
  have valid : undisturbed.Valid ((m₀, d₁), {}) es := by decide +kernel
  have avoids : undisturbed.Avoids (fun c e => c.1.1.overtaxes e = true) ((m₀, d₁), {}) es := by
    decide +kernel
  exact ⟨made, rfl, valid, (serving_throughout_iff made rfl valid).1.mpr avoids, by decide +kernel⟩

/-- The size of the second buffer can be counted, and the session accepts it. The frame that is released
with it ends the render thread, and a buffer that could be drawn comes too late. -/
theorem overlarge_buffer_ends_thread :
    let plain : BufferShape := ⟨1, 1, 1, .rgba8888, .none, 1⟩
    let large : BufferShape := ⟨4, 1073741824, 1, .rgba8888, .none, 4294967295⟩
    let c₀ : (Machine Painter × HeadlessDisplay) × Journal :=
      ((Machine.fresh ⟨1, "panel", 1, 1, 0⟩ 1 plain { clearColor := ⟨0, 0, 0, 255⟩ },
        { owner := some 1, acquireCalls := 1 }), {})
    let frame (t n : Nat) (shape : BufferShape) : List (Event HeadlessDisplay) :=
      [.acquire, .release t ⟨shape, n, n, []⟩, .work, .work, .work]
    let es := [.setState .visible .started, .work, .work] ++ frame 0 1 plain ++
      [.work, .resume 0, .reallocate large] ++ frame 1 2 large ++ [.resume 1, .reallocate plain, .acquire,
        .release 2 ⟨plain, 3, 3, []⟩]
    let c := undisturbed.run c₀ es
    undisturbed.Valid c₀ es ∧ large.check = .ok () ∧ ¬ c.1.1.Serving ∧
      c.1.1.shared.thread = .stopped ∧ c.1.1.shared.fault = some .renderThreadCrashed ∧
      c.1.1.shared.slot.live = ⟨plain, 3, 3⟩ ∧
      c.1.1.returned = [(2, .error .shutDown), (1, .error .shutDown), (0, .ok ())] := by
  decide +kernel

end Machine

end DisplaySurface
