import DisplaySurface.Proofs.Cli.Equipment

/-!
The rounds of the command line: a frame is acquired, released and waited for, and in the end the session is
shut down. All frames fare alike: either the buffer can be drawn and each frame is shown, or the render thread
ends before it has shown one.
-/

namespace DisplaySurface.Cli

open Machine

variable {shape : BufferShape} {m : Machine Painter} {d : HeadlessDisplay}
  {c : Machine Painter × HeadlessDisplay}

structure Regular (m : Machine Painter) : Prop where
  life : Lifetime m
  passing : Passing m
  pinned : Pinned m

theorem Regular.next {e : Event HeadlessDisplay} (h : Regular m) (move : Move m d e c) : Regular c.1 where
  life := step_preserves_lifetime h.life move
  passing := step_preserves_passing h.life h.passing move
  pinned := step_preserves_pinned h.passing h.pinned move

def outcomeFor (shape : BufferShape) : Outcome :=
  if shape.isDrawable then .ok () else .error .shutDown

/-- So many frames have ended, and the session goes on. -/
structure Scene (shape : BufferShape) (ended : Nat) (m : Machine Painter) (d : HeadlessDisplay) : Prop where
  regular : Regular m
  valid : shape.check = .ok ()
  equipped : Equipped shape m d
  booked : Booked shape m d
  alive : m.shared.isDead = false
  clean : m.poisoned = false
  unclosed : m.closing = .notYet
  count : shape.isDrawable = true →
    m.shared.tally.presented = ended + m.shared.handoff.isDone.toNat
  told : ∀ frame < ended, m.returned.lookup frame = some (outcomeFor shape)
  untold : ∀ r ∈ m.returned, r.1 < ended

/-- The main thread is between two frames, or draws one. -/
structure Resting (shape : BufferShape) (ended : Nat) (lent : Bool) (m : Machine Painter)
    (d : HeadlessDisplay) : Prop where
  scene : Scene shape ended m d
  alone : m.waiters = []
  busy : m.shared.slot.busy = lent

/-- The main thread waits for a frame. -/
structure Waiting (shape : BufferShape) (frame : Nat) (m : Machine Painter) (d : HeadlessDisplay) :
    Prop where
  scene : Scene shape frame m d
  waiting : m.waiting = [frame]
  busy : m.shared.slot.busy = true

variable {k : Nat}

theorem Resting.few {lent : Bool} (h : Resting shape k lent m d) : m.waiters.length ≤ 1 := by
  simp [h.alone]

theorem Waiting.few (h : Waiting shape k m d) : m.waiters.length ≤ 1 := by
  have one := congrArg List.length h.waiting
  simp only [Machine.waiting, List.length_map, List.length_singleton] at one
  exact Nat.le_of_eq one

theorem kept_by_work (move : Move m d .work c) : c.1.returned = m.returned ∧ c.1.closing = m.closing ∧
    c.1.poisoned = m.poisoned ∧ c.1.shared.isDead = m.shared.isDead ∧
    c.1.shared.slot = m.shared.slot ∧ c.1.waiting = m.waiting := by
  cases move with
  | publish r => exact ⟨rfl, rfl, rfl, Session.finishFrame_isDead r m.shared, rfl, waiting_wakeCallers _⟩
  | leave crashed =>
    exact ⟨rfl, rfl, rfl, Session.exit_isDead crashed m.shared, Session.exit_slot crashed m.shared,
      waiting_wakeAll _⟩
  | _ => exact ⟨rfl, rfl, rfl, rfl, rfl, rfl⟩

theorem Scene.work (h : Scene shape k m d) (move : Move m d .work c) : Scene shape k c.1 c.2 := by
  obtain ⟨returned, closing, poisoned, dead, _⟩ := kept_by_work move
  refine
    { regular := h.regular.next move
      valid := h.valid
      equipped := step_preserves_equipped h.regular.life h.regular.pinned h.valid h.equipped move
      booked := step_preserves_booked h.regular.life h.regular.passing h.regular.pinned h.valid h.equipped
        h.booked move
      alive := dead.trans h.alive
      clean := poisoned.trans h.clean
      unclosed := closing.trans h.unclosed
      count := fun drawable => ?_
      told := by rw [returned]; exact h.told
      untold := by rw [returned]; exact h.untold }
  have count := h.count drawable
  cases move with
  | take _ here _ ready | skip _ here _ ready =>
    simpa [ready, Handoff.isDone] using count
  | publish r here =>
    obtain rfl := h.booked.publishing r here
    have rendering := h.regular.passing.drawing_rendering (by simp [here, Phase.isDrawing])
    have finished : (m.shared.finishFrame .presented).handoff = .done _ :=
      Session.finishFrame_handoff rendering .presented
    have before : m.shared.tally.presented = k := by simpa [rendering, Handoff.isDone] using count
    show m.shared.tally.presented + 1 = k + (m.shared.finishFrame .presented).handoff.isDone.toNat
    rw [finished, before]
    rfl
  | leave crashed here =>
    have hopeless := h.equipped.hopeless h.alive (by simp [here, Phase.isComing])
      (by simp [here, Phase.isLooping])
    simp [hopeless] at drawable
  | _ => exact count

theorem Scene.still {m' : Machine Painter} (h : Scene shape k m d)
    (live : m'.shared.slot.live = m.shared.slot.live)
    (tally : m'.shared.tally = m.shared.tally) (requested : m'.shared.requested = m.shared.requested)
    (done : ∀ outcome, m'.shared.handoff = .done outcome → m.shared.handoff = .done outcome)
    (renderer : m'.renderer = m.renderer) (resource : m'.resource = m.resource)
    (phase : m'.phase = m.phase ∨ m'.phase = m.phase.notified) :
    Equipped shape m' d ∧ Booked shape m' d := by
  refine ⟨h.equipped.onward live requested renderer resource phase, ?_⟩
  apply h.booked.onward tally requested
  · rcases phase with p | p <;> simp [p]
  · rcases phase with p | p <;> simp [p]
  · rw [renderer]
  · rcases phase with p | p <;> simp [p]
  · rcases phase with p | p <;> simp [p]
  · exact done

theorem Scene.stay {m' : Machine Painter} (h : Scene shape k m d) (regular : Regular m')
    (live : m'.shared.slot.live = m.shared.slot.live)
    (tally : m'.shared.tally = m.shared.tally) (requested : m'.shared.requested = m.shared.requested)
    (isDone : m'.shared.handoff.isDone = m.shared.handoff.isDone)
    (done : ∀ outcome, m'.shared.handoff = .done outcome → m.shared.handoff = .done outcome)
    (renderer : m'.renderer = m.renderer) (resource : m'.resource = m.resource)
    (phase : m'.phase = m.phase ∨ m'.phase = m.phase.notified)
    (poisoned : m'.poisoned = m.poisoned) (closing : m'.closing = m.closing)
    (returned : m'.returned = m.returned) : Scene shape k m' d := by
  obtain ⟨equipped, booked⟩ := h.still live tally requested done renderer resource phase
  constructor
  · exact regular
  · exact h.valid
  · exact equipped
  · exact booked
  · simpa only [Session.isDead, requested] using h.alive
  · exact poisoned.trans h.clean
  · exact closing.trans h.unclosed
  · rw [tally, isDone]
    exact h.count
  · rw [returned]
    exact h.told
  · rw [returned]
    exact h.untold

def shown (shape : BufferShape) (frames : Nat) : Nat :=
  if shape.isDrawable then frames else 0

theorem Resting.idle {lent : Bool} (h : Resting shape k lent m d) : m.shared.handoff = .idle := by
  by_contra occupied
  rcases h.scene.regular.passing.occupied_claimed occupied with claimed | dead
  · exact claimed h.alone
  · rw [h.scene.alive] at dead
    cases dead

theorem Resting.undrawn {lent : Bool} (h : Resting shape k lent m d) : m.phase.isDrawing = false := by
  cases drawing : m.phase.isDrawing with
  | false => rfl
  | true =>
    have rendering := h.scene.regular.passing.drawing_rendering drawing
    rw [h.idle] at rendering
    cases rendering

theorem Resting.sees {lent : Bool} (h : Resting shape k lent m d) :
    m.shared.tally = { presented := shown shape k } ∧ d.imports = min (shown shape k) 1 ∧
      m.shared.requested = (if shown shape k = 0 then .visibleOnNextFrame else .visible) ∧
      Pictured shape (shown shape k) m.renderer.lastFrame ∧ d.presented = shown shape k := by
  have scene := h.scene
  have booked := scene.booked
  have undrawn := h.undrawn
  have unpainted : m.phase.painted = 0 := by
    cases here : m.phase <;> simp_all [Phase.isDrawing, Phase.painted]
  have undisplayed : m.phase.displayed = 0 := by
    cases here : m.phase <;> simp_all [Phase.isDrawing, Phase.displayed]
  have presented : m.shared.tally.presented = shown shape k := by
    cases drawable : shape.isDrawable with
    | true => simpa [shown, drawable, h.idle, Handoff.isDone] using scene.count drawable
    | false =>
      have none := mt booked.drawable (by simp [drawable])
      simp only [shown, drawable, Bool.false_eq_true, if_false]
      omega
  have pictured := booked.pictured
  have accepted := booked.accepted
  have imports := booked.imports
  have requested := booked.requested scene.alive
  simp only [presented, unpainted, undisplayed, Nat.add_zero] at pictured accepted imports requested
  exact ⟨presented ▸ booked.tally, imports, requested, pictured, accepted⟩

theorem Resting.acquire (h : Resting shape k false m d) :
    ∃ m', m.acquire = (.ok { shape, handle := 1, fingerprint := 1 }, m') ∧ Resting shape k true m' d := by
  have live := h.scene.equipped.live
  have lent : m.acquire = (.ok { shape, handle := 1, fingerprint := 1 },
      { m with shared := { m.shared with slot := { m.shared.slot with busy := true } } }) := by
    simp [Machine.acquire, Session.acquire, Slot.checkOut, h.scene.alive, h.busy, live, Slot.new]
  have regular := h.scene.regular.next (acquire_move m d)
  rw [lent] at regular
  have scene := h.scene.stay regular rfl rfl rfl rfl (fun _ => id) rfl rfl (.inl rfl) rfl rfl rfl
  exact ⟨_, lent, scene, h.alone, rfl⟩

theorem Scene.ends {m' : Machine Painter} (h : Scene shape k m d) (regular : Regular m')
    (live : m'.shared.slot.live = m.shared.slot.live)
    (tally : m'.shared.tally = m.shared.tally) (requested : m'.shared.requested = m.shared.requested)
    (undone : m'.shared.handoff.isDone = false)
    (renderer : m'.renderer = m.renderer) (resource : m'.resource = m.resource)
    (phase : m'.phase = m.phase) (poisoned : m'.poisoned = m.poisoned) (closing : m'.closing = m.closing)
    (shown : shape.isDrawable = true → m.shared.tally.presented = k + 1)
    (returned : m'.returned = (k, outcomeFor shape) :: m.returned) : Scene shape (k + 1) m' d := by
  have nothing (outcome : Outcome) (done : m'.shared.handoff = .done outcome) :
      m.shared.handoff = .done outcome := by
    rw [done] at undone
    cases undone
  obtain ⟨equipped, booked⟩ := h.still live tally requested nothing renderer resource (.inl phase)
  constructor
  · exact regular
  · exact h.valid
  · exact equipped
  · exact booked
  · simpa only [Session.isDead, requested] using h.alive
  · exact poisoned.trans h.clean
  · exact closing.trans h.unclosed
  · intro drawable
    rw [tally, undone]
    exact shown drawable
  · intro frame before
    rw [returned, List.lookup_cons]
    by_cases last : frame = k
    · simp [last]
    · have other : (frame == k) = false := by simpa using last
      rw [other]
      exact h.told frame (by omega)
  · rw [returned]
    intro r mem
    rcases List.mem_cons.mp mem with rfl | earlier
    · exact Nat.lt_succ_self k
    · exact Nat.lt_succ_of_lt (h.untold r earlier)

theorem Scene.visible (h : Scene shape k m d) : m.shared.requested.isVisible = true := by
  rw [h.booked.requested h.alive]
  split <;> rfl

/-- A thread that has left could not draw the shape. -/
theorem Scene.outcome_of_halted (h : Scene shape k m d) (halted : m.shared.thread ≠ .running) :
    outcomeFor shape = .error .shutDown := by
  have stopped := h.regular.life.stopped_of_halted h.alive halted
  have left := h.regular.life.stopped_over stopped
  have hopeless : shape.isDrawable = false := by
    apply h.equipped.hopeless h.alive
    · cases here : m.phase <;> simp_all [Phase.isOver, Phase.isComing]
    · cases here : m.phase <;> simp_all [Phase.isOver, Phase.isLooping]
  rw [outcomeFor, hopeless]
  rfl

/-- A release hands its frame over, or returns at once because the thread has left. -/
theorem Resting.release (h : Resting shape k true m d) {b : Checkout} (mine : b.fingerprint = 1) :
    Waiting shape k (m.release k b) d ∨ Resting shape (k + 1) false (m.release k b) d := by
  have scene := h.scene
  have idle := h.idle
  have enabled : m.Enabled (.release k b : Event HeadlessDisplay) := by
    refine ⟨by simp [h.alone], ?_⟩
    rw [List.all_eq_true]
    intro r mem
    have earlier := scene.untold r mem
    simp only [decide_eq_true_eq]
    omega
  have move := release_move m d k b enabled
  have regular := scene.regular.next move
  generalize m.release k b = m' at move regular
  cases move with
  | rejected _ _ e _ _ invalid =>
    have valid : m.shared.slot.validate b = .ok () := by
      rw [Slot.validate_eq_ok_iff, scene.equipped.live]
      exact ⟨mine, h.busy⟩
    rw [valid] at invalid
    cases invalid
  | releasedIdle _ _ _ _ _ off =>
    have halted : m.shared.thread ≠ .running := by
      rcases off with dead | ⟨_, halted⟩
      · rw [scene.alive] at dead
        cases dead
      · exact halted
    have outcome := scene.outcome_of_halted halted
    have idle' : m.shared.checkIn.handoff.isDone = false := by
      rw [Session.checkIn, idle]
      rfl
    refine .inr ⟨scene.ends regular rfl rfl rfl idle' rfl rfl rfl rfl rfl ?_ (by rw [outcome]), h.alone,
      rfl⟩
    intro drawable
    simp [outcomeFor, drawable] at outcome
  | discarded _ _ _ _ _ _ hidden =>
    rw [scene.visible] at hidden
    cases hidden
  | offerRefused _ _ _ _ _ _ _ _ occupied => exact absurd idle occupied
  | handOver _ _ _ _ _ _ _ _ _ =>
    refine .inl ⟨scene.stay regular rfl rfl rfl ?_ (by simp) rfl rfl (.inr rfl) rfl rfl rfl, ?_, h.busy⟩
    · rw [idle]
      rfl
    · simp [waiting, h.alone]

/-- Whatever goes on by itself leaves the frames as they are, unless a caller collects an outcome. -/
theorem Scene.go {e : Event HeadlessDisplay} (h : Scene shape k m d)
    (own : (e.isProgress || e.isStray) = true) (move : Move m d e c) :
    (Scene shape k c.1 c.2 ∧ c.1.waiting = m.waiting ∧ c.1.shared.slot = m.shared.slot) ∨
      ∃ ticket, ticket ∈ m.waiting ∧ m.shared.mustWait = false ∧
        c = ({ m with
          shared := m.shared.collect.2
          waiters := m.waiters.filter fun w => w.ticket ≠ ticket
          returned := (ticket, m.shared.collect.1) :: m.returned }, d) := by
  have regular := h.regular.next move
  cases e with
  | work =>
    obtain ⟨_, _, _, _, slot, waiting⟩ := kept_by_work move
    exact .inl ⟨h.work move, waiting, slot⟩
  | resume ticket => cases move with
    | waitOn _ woken must clean =>
      exact .inl ⟨h.stay regular rfl rfl rfl rfl (fun _ => id) rfl rfl (.inl rfl) rfl rfl rfl,
        waiting_mark m ticket true, rfl⟩
    | collect _ woken settled =>
      have settled : m.shared.mustWait = false := by simpa [h.clean] using settled
      exact .inr ⟨ticket, mem_waiting_of_mem woken, settled, rfl⟩
  | join => cases move with
    | join joining => simp [h.unclosed] at joining
  | relinquish => cases move with
    | relinquish ready => simp [h.unclosed] at ready
  | strayWakeRender => cases move with
    | strayWakeRender here =>
      have woken : Phase.seeking = m.phase.notified := by simp [here, Phase.notified]
      exact .inl ⟨h.stay regular rfl rfl rfl rfl (fun _ => id) rfl rfl (.inr woken) rfl rfl rfl, rfl, rfl⟩
  | strayWakeCaller ticket => cases move with
    | strayWakeCaller _ parked =>
      exact .inl ⟨h.stay regular rfl rfl rfl rfl (fun _ => id) rfl rfl (.inl rfl) rfl rfl rfl,
        waiting_mark m ticket false, rfl⟩
  | _ => cases own

/-- Nothing that goes on by itself matters to the main thread while it does not wait. -/
theorem Resting.go {lent : Bool} {e : Event HeadlessDisplay} (h : Resting shape k lent m d)
    (own : (e.isProgress || e.isStray) = true) (move : Move m d e c) : Resting shape k lent c.1 c.2 := by
  have nobody : m.waiting = [] := by simp [waiting, h.alone]
  rcases h.scene.go own move with ⟨scene, waiting, slot⟩ | ⟨ticket, waits, _⟩
  · refine ⟨scene, ?_, by rw [slot]; exact h.busy⟩
    exact List.map_eq_nil_iff.mp (waiting.trans nobody)
  · simp [nobody] at waits

theorem Waiting.collected (h : Waiting shape k m d) (settled : m.shared.mustWait = false) :
    m.shared.collect.1 = outcomeFor shape ∧
      (shape.isDrawable = true → m.shared.tally.presented = k + 1) := by
  have scene := h.scene
  rcases (Session.mustWait_eq_false_iff _).mp settled with done | dead | halted
  · obtain ⟨outcome, done⟩ := Handoff.done_of_isDone done
    obtain ⟨rfl, drawable⟩ := scene.booked.done outcome done
    have count := scene.count drawable
    rw [done] at count
    exact ⟨by simp [Session.collect_of_done done, outcomeFor, drawable], fun _ => count⟩
  · rw [scene.alive] at dead
    cases dead
  · have stopped := scene.regular.life.stopped_of_halted scene.alive halted
    have idle := scene.regular.passing.stopped_idle stopped
    have outcome := scene.outcome_of_halted halted
    have collected := Session.collect_of_not_done (s := m.shared) (by simp [idle, Handoff.isDone])
    refine ⟨collected.trans outcome.symm, fun drawable => ?_⟩
    simp [outcomeFor, drawable] at outcome

theorem Waiting.go {e : Event HeadlessDisplay} (h : Waiting shape k m d)
    (own : (e.isProgress || e.isStray) = true) (move : Move m d e c) :
    Waiting shape k c.1 c.2 ∨ Resting shape (k + 1) false c.1 c.2 := by
  have scene := h.scene
  have regular := scene.regular.next move
  rcases scene.go own move with ⟨scene, waiting, slot⟩ | ⟨ticket, waits, settled, rfl⟩
  · exact .inl ⟨scene, waiting.trans h.waiting, by rw [slot]; exact h.busy⟩
  · right
    obtain rfl : ticket = k := by simpa [h.waiting] using waits
    obtain ⟨outcome, shown⟩ := h.collected settled
    have undone : m.shared.collect.2.handoff.isDone = false := by
      cases handoff : m.shared.handoff <;>
        simp [handoff, Handoff.collect, Handoff.withdraw, Handoff.isDone]
    refine ⟨scene.ends regular (by simp) ?_ (by simp) ?_ rfl rfl rfl rfl rfl shown (by rw [outcome]),
      ?_, ?_⟩
    · rw [Session.collect_snd]
      rfl
    · simpa using undone
    · rw [List.filter_eq_nil_iff]
      intro w mem
      have same : w.ticket ∈ m.waiting := List.mem_map_of_mem mem
      simpa [h.waiting] using same
    · simp [Slot.checkIn]

/-- The session is shut down, and the main thread waits for the render thread. -/
structure Departing (frames : Nat) (m : Machine Painter) (d : HeadlessDisplay) : Prop where
  regular : Regular m
  dead : m.shared.requested = .dead
  alone : m.waiters = []
  begun : m.closing ≠ .notYet
  left : m.closing ≠ .joining → m.phase.isOver = true
  undrawn : m.phase.isDrawing = false
  presented : d.presented = frames

theorem Resting.shutdown {lent : Bool} (h : Resting shape k lent m d) :
    Departing (shown shape k) m.shutdown d ∧ m.shutdown.closing = .joining := by
  have regular := h.scene.regular.next (shutdown_move m d)
  have begins : m.shutdown.shared.requested = .dead ∧ m.shutdown.waiters = [] ∧
      m.shutdown.closing = .joining ∧ m.shutdown.phase = m.phase.notified := by
    by_cases running : m.shared.thread = .running
    · simp [Machine.shutdown, Session.beginShutdown?, h.scene.alive, running, Lifecycle.isRunning,
        Session.apply, wakeAll, h.alone]
    · simp [Machine.shutdown, Session.beginShutdown?, h.scene.alive,
        (Lifecycle.isRunning_eq_false_iff _).mpr running, wakeAll, h.alone]
  obtain ⟨dead, alone, joining, woken⟩ := begins
  have undrawn : m.shutdown.phase.isDrawing = false := by
    rw [woken, Phase.isDrawing_notified]
    exact h.undrawn
  exact ⟨⟨regular, dead, alone, by simp [joining], by simp [joining], undrawn, h.sees.2.2.2.2⟩, joining⟩

namespace Departing

variable {frames : Nat}

theorem few (h : Departing frames m d) : m.waiters.length ≤ 1 := by
  simp [h.alone]

theorem awake (h : Departing frames m d) : m.phase ≠ .parked := by
  intro here
  have alive := h.regular.life.running_alive (h.regular.passing.parked_running here)
  simp [Session.isDead, h.dead] at alive

theorem undrawn_by_work (h : Departing frames m d) (move : Move m d .work c) :
    c.1.phase.isDrawing = false ∧ c.2 = d := by
  have undrawn := h.undrawn
  cases move with
  | take _ _ running | skip _ _ running =>
    have alive := h.regular.life.running_alive running
    simp [Session.isDead, h.dead] at alive
  | composed _ _ here | composeFailed _ _ _ here | composeBroke _ _ here | presented _ _ here
  | presentFailed _ _ _ here | presentBroke _ _ here | publish _ here =>
    simp [here, Phase.isDrawing] at undrawn
  | _ => exact ⟨rfl, rfl⟩

theorem go {e : Event HeadlessDisplay} (h : Departing frames m d)
    (own : (e.isProgress || e.isStray) = true) (move : Move m d e c) : Departing frames c.1 c.2 := by
  have regular := h.regular.next move
  cases e with
  | work =>
    obtain ⟨_, closing, _, same, _, waiting⟩ := kept_by_work move
    obtain ⟨undrawn, display⟩ := h.undrawn_by_work move
    have somewhere := somewhere_of_work move
    rw [Machine.waiting, Machine.waiting, h.alone] at waiting
    refine ⟨regular, ?_, List.map_eq_nil_iff.mp waiting, by rw [closing]; exact h.begun, ?_, undrawn,
      by rw [display]; exact h.presented⟩
    · simpa [Session.isDead, h.dead] using same
    · intro onward
      rw [closing] at onward
      simp [h.left onward] at somewhere
  | resume ticket => cases move with
    | waitOn _ woken | collect _ woken => simp [h.alone] at woken
  | join => cases move with
    | join joining settled =>
      exact ⟨regular, h.dead, h.alone, by simp, fun _ => settled, h.undrawn, h.presented⟩
  | relinquish => cases move with
    | relinquish ready =>
      refine ⟨regular, h.dead, h.alone, by simp, fun _ => h.left (by simp [ready]), h.undrawn, ?_⟩
      exact (HeadlessDisplay.presented_release _ d).trans h.presented
  | strayWakeRender => cases move with
    | strayWakeRender here => exact absurd here h.awake
  | strayWakeCaller ticket => cases move with
    | strayWakeCaller _ parked => simp [h.alone] at parked
  | _ => cases own

end Departing

theorem Waiting.goes_on (h : Waiting shape k m d) :
    ∃ e : Event HeadlessDisplay, e.isProgress = true ∧ m.Enabled e := by
  have scene := h.scene
  have waits : k ∈ m.waiting := by simp [h.waiting]
  obtain ⟨w, mem, rfl⟩ := List.mem_map.mp waits
  cases parked : w.parked with
  | false =>
    refine ⟨.resume w.ticket, rfl, ?_⟩
    simp only [Enabled, hasWaiter, List.any_eq_true]
    exact ⟨w, mem, by simp [parked]⟩
  | true =>
    have asleep : ⟨w.ticket, true⟩ ∈ m.waiters := parked ▸ mem
    have must := scene.regular.passing.parked_must w.ticket asleep
    exact ⟨.work, rfl, worker_of_mustWait scene.regular.life scene.regular.passing scene.clean
      (List.ne_nil_of_mem mem) must⟩

theorem Departing.goes_on {frames : Nat} (h : Departing frames m d) (unclosed : m.closing ≠ .closed) :
    ∃ e : Event HeadlessDisplay, e.isProgress = true ∧ m.Enabled e := by
  cases closing : m.closing with
  | notYet => exact absurd closing h.begun
  | closed => exact absurd closing unclosed
  | relinquishing => exact ⟨.relinquish, rfl, closing⟩
  | joining =>
    cases left : m.phase.isOver with
    | true => exact ⟨.join, rfl, closing, left⟩
    | false =>
      refine ⟨.work, rfl, ?_⟩
      show m.phase.canWork = true
      cases here : m.phase with
      | absent | gone => simp [here, Phase.isOver] at left
      | parked => exact absurd here h.awake
      | _ => rfl

theorem Resting.initial {info : DisplayInfo} {clearColor : Rgba} {spawn : Spawn} {m₀ : Machine Painter}
    (made : Machine.create info shape { clearColor } {} = (.ok m₀, d))
    (shown : m₀.setState .visibleOnNextFrame spawn = (.returned (.ok ()), m)) :
    Resting shape 0 false m d := by
  rcases create_cases info shape ({ clearColor } : Painter) {} with
    ⟨_, _, bad⟩ | ⟨_, _, _, refused⟩ | ⟨valid, _, _, granted⟩
  · simp [bad] at made
  · simp [refused] at made
  · rw [granted] at made
    cases made
    have first : Regular (fresh info info.id shape ({ clearColor } : Painter)) :=
      ⟨Lifetime.initial _ _ _ _, Passing.initial _ _ _ _, Pinned.initial _ _ _ _⟩
    have regular := first.next (setState_move _ ({} : HeadlessDisplay) .visibleOnNextFrame spawn)
    rw [shown] at regular
    obtain rfl := opened_of_setState shown
    have equipped := Equipped.initial shape info clearColor
    have booked := Booked.initial shape info clearColor
    exact ⟨⟨regular, valid, equipped, booked, rfl, rfl, rfl, fun _ => rfl, by simp,
      by simp [opened, fresh]⟩, rfl, rfl⟩

end DisplaySurface.Cli
