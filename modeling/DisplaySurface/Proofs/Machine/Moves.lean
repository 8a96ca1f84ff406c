import DisplaySurface.Machine.Step

/-!
What a step can do to a session at work. Every way in which a section can end is one constructor, with
what it found and what it left; all that is proved of runs starts from here and not from the sections.
-/

namespace DisplaySurface.Machine

variable {σ δ : Type} [Renderer σ] [Display δ]

/-- One step, with what was found when it was made. -/
inductive Move (m : Machine σ) (d : δ) : Event δ → Machine σ × δ → Prop where
  | requestRefused (wanted spawn) : Move m d (.setState wanted spawn) (m, d)
  | request (wanted spawn) (alive : m.shared.isDead = false) (legal : wanted ≠ .dead)
      (keeps : m.shared.starts wanted = false) :
      Move m d (.setState wanted spawn)
        ({ m with shared := { m.shared with requested := wanted } }, d)
  /-- A thread is started by nobody but the one request that finds the renderer still there. -/
  | start (wanted) (alive : m.shared.isDead = false) (visible : wanted.isVisible = true)
      (stopped : m.shared.thread = .stopped) (sound : m.shared.fault = none)
      (present : m.shared.hasRenderer = true) :
      Move m d (.setState wanted .started)
        ({ m with
            shared := { m.shared with
              thread := .running
              past := (.stopped, .start) :: m.shared.past
              hasRenderer := false
              requested := wanted }
            phase := .created }, d)
  | startRefused (wanted reason) (alive : m.shared.isDead = false)
      (visible : wanted.isVisible = true) (stopped : m.shared.thread = .stopped)
      (sound : m.shared.fault = none) (present : m.shared.hasRenderer = true) :
      Move m d (.setState wanted (.refused reason))
        ({ m with
            shared := { m.shared with
              thread := .stopped
              past := [(.stopping, .exited), (.running, .stop), (.stopped, .start)] ++ m.shared.past
              hasRenderer := false
              fault := some (.spawnFailed reason) } }, d)
  /-- The lifecycle says that the thread runs, and there is none. -/
  | startCrashed (wanted crash) (alive : m.shared.isDead = false)
      (visible : wanted.isVisible = true) (stopped : m.shared.thread = .stopped)
      (sound : m.shared.fault = none) (present : m.shared.hasRenderer = true) :
      Move m d (.setState wanted (.crashed crash))
        ({ m with
            shared := { m.shared with
              thread := .running
              past := (.stopped, .start) :: m.shared.past
              hasRenderer := false }
            poisoned := true }, d)
  | acquireRefused (e) (refused : m.acquire.1 = .error e) : Move m d .acquire (m, d)
  | acquire (alive : m.shared.isDead = false) (free : m.shared.slot.busy = false) :
      Move m d .acquire
        ({ m with shared := { m.shared with slot := { m.shared.slot with busy := true } } }, d)
  | rejected (ticket c e) (unused : ticket ∉ m.waiters.map (·.ticket))
      (unreturned : ticket ∉ m.returned.map (·.1)) (invalid : m.shared.slot.validate c = .error e) :
      Move m d (.release ticket c) ({ m with returned := (ticket, .error e) :: m.returned }, d)
  | releasedIdle (ticket c) (unused : ticket ∉ m.waiters.map (·.ticket))
      (unreturned : ticket ∉ m.returned.map (·.1)) (valid : m.shared.slot.validate c = .ok ())
      (off : m.shared.isDead = true ∨
        m.shared.requested.isVisible = true ∧ m.shared.thread ≠ .running) :
      Move m d (.release ticket c)
        ({ m with
            shared := m.shared.checkIn
            returned := (ticket, .error .shutDown) :: m.returned }, d)
  | discarded (ticket c) (unused : ticket ∉ m.waiters.map (·.ticket))
      (unreturned : ticket ∉ m.returned.map (·.1)) (valid : m.shared.slot.validate c = .ok ())
      (alive : m.shared.isDead = false) (hidden : m.shared.requested.isVisible = false) :
      Move m d (.release ticket c)
        ({ m with
            shared := { m.shared.checkIn with
              tally := { m.shared.tally with discarded := m.shared.tally.discarded + 1 } }
            returned := (ticket, .ok ()) :: m.returned }, d)
  | offerRefused (ticket c) (unused : ticket ∉ m.waiters.map (·.ticket))
      (unreturned : ticket ∉ m.returned.map (·.1)) (valid : m.shared.slot.validate c = .ok ())
      (alive : m.shared.isDead = false) (visible : m.shared.requested.isVisible = true)
      (running : m.shared.thread = .running) (occupied : m.shared.handoff ≠ .idle) :
      Move m d (.release ticket c)
        ({ m with
            shared := m.shared.checkIn
            returned := (ticket, .error .frameInFlight) :: m.returned }, d)
  | handOver (ticket c) (unused : ticket ∉ m.waiters.map (·.ticket))
      (unreturned : ticket ∉ m.returned.map (·.1)) (valid : m.shared.slot.validate c = .ok ())
      (alive : m.shared.isDead = false) (running : m.shared.thread = .running)
      (visible : m.shared.requested.isVisible = true) (idle : m.shared.handoff = .idle) :
      Move m d (.release ticket c)
        ({ m with
            shared := { m.shared with handoff := .ready ⟨m.shared.slot.live, c.layers⟩ }
            phase := m.phase.notified
            waiters := m.waiters ++ [{ ticket }] }, d)
  | reallocateRefused (shape) : Move m d (.reallocate shape) (m, d)
  | reallocate (shape) (alive : m.shared.isDead = false) (idle : m.shared.handoff = .idle)
      (valid : shape.check = .ok ()) :
      Move m d (.reallocate shape)
        ({ m with shared := { m.shared with slot := m.shared.slot.reallocate shape } }, d)
  | shutdownAgain (dead : m.shared.isDead = true) : Move m d .shutdown (m, d)
  | shutdownRunning (alive : m.shared.isDead = false) (running : m.shared.thread = .running) :
      Move m d .shutdown
        ({ { m with
              shared := { m.shared with
                requested := .dead
                thread := .stopping
                past := (.running, .stop) :: m.shared.past } }.wakeAll with
            closing := .joining }, d)
  | shutdownHalted (alive : m.shared.isDead = false) (halted : m.shared.thread ≠ .running) :
      Move m d .shutdown
        ({ { m with shared := { m.shared with requested := .dead } }.wakeAll with
            closing := .joining }, d)
  | begin (here : m.phase = .created) :
      Move m d .work
        ({ m with
            phase := .starting m.shared.slot.live.shape
            calls := .start m.shared.slot.live.shape :: m.calls }, d)
  | started (shape renderer) (here : m.phase = .starting shape)
      (reply : Renderer.start shape m.renderer = (.done, renderer)) :
      Move m d .work ({ m with renderer, phase := .seeking }, d)
  | startFailed (shape renderer reason) (here : m.phase = .starting shape)
      (reply : Renderer.start shape m.renderer = (.failed reason, renderer)) :
      Move m d .work ({ m with renderer, phase := .failing (.startFailed reason) }, d)
  | startBroke (shape renderer) (here : m.phase = .starting shape)
      (reply : Renderer.start shape m.renderer = (.crashed, renderer)) :
      Move m d .work ({ m with renderer, phase := .leaving true }, d)
  | recordFault (e) (here : m.phase = .failing e) :
      Move m d .work ({ m with shared := m.shared.recordFault e, phase := .leaving false }, d)
  | park (here : m.phase = .seeking) (running : m.shared.thread = .running)
      (none : m.shared.handoff.isReady = false) :
      Move m d .work ({ m with phase := .parked }, d)
  | stop (here : m.phase = .seeking) (halted : m.shared.thread ≠ .running) :
      Move m d .work ({ m with phase := .leaving false }, d)
  | take (frame) (here : m.phase = .seeking) (running : m.shared.thread = .running)
      (ready : m.shared.handoff = .ready frame) (visible : m.shared.requested.isVisible = true) :
      Move m d .work
        ({ m with
            shared := { m.shared with handoff := .rendering }
            phase := .composing { frame with layers := Layer.inDrawingOrder frame.layers }
            calls := .compose frame.buffer (Layer.inDrawingOrder frame.layers) :: m.calls }, d)
  | skip (frame) (here : m.phase = .seeking) (running : m.shared.thread = .running)
      (ready : m.shared.handoff = .ready frame) (hidden : m.shared.requested.isVisible = false) :
      Move m d .work
        ({ m with
            shared := { m.shared with handoff := .rendering }
            phase := .publishing .discarded }, d)
  | composed (frame renderer) (here : m.phase = .composing frame)
      (reply : Renderer.compose frame.buffer frame.layers m.renderer = (.done, renderer)) :
      Move m d .work
        ({ m with
            renderer
            sequence := m.sequence + 1
            phase := .presenting { buffer := frame.buffer, sequence := m.sequence + 1 } }, d)
  | composeFailed (frame renderer reason) (here : m.phase = .composing frame)
      (reply : Renderer.compose frame.buffer frame.layers m.renderer = (.failed reason, renderer)) :
      Move m d .work
        ({ m with renderer, phase := .publishing (.failed (.composeFailed reason)) }, d)
  | composeBroke (frame renderer) (here : m.phase = .composing frame)
      (reply : Renderer.compose frame.buffer frame.layers m.renderer = (.crashed, renderer)) :
      Move m d .work ({ m with renderer, phase := .leaving true }, d)
  | presented (frame d') (here : m.phase = .presenting frame)
      (reply : Display.present m.resource frame d = (.done, d')) :
      Move m d .work
        ({ m with phase := .publishing .presented, calls := .present frame :: m.calls }, d')
  | presentFailed (frame d' reason) (here : m.phase = .presenting frame)
      (reply : Display.present m.resource frame d = (.failed reason, d')) :
      Move m d .work
        ({ m with
            phase := .publishing (.failed (.presentFailed reason))
            calls := .present frame :: m.calls }, d')
  | presentBroke (frame d') (here : m.phase = .presenting frame)
      (reply : Display.present m.resource frame d = (.crashed, d')) :
      Move m d .work ({ m with phase := .leaving true, calls := .present frame :: m.calls }, d')
  | publish (r) (here : m.phase = .publishing r) :
      Move m d .work ({ m with shared := m.shared.finishFrame r, phase := .seeking }.wakeCallers, d)
  | leave (crashed) (here : m.phase = .leaving crashed) :
      Move m d .work ({ m with shared := m.shared.exit crashed, phase := .gone }.wakeAll, d)
  | waitOn (ticket) (woken : ⟨ticket, false⟩ ∈ m.waiters) (must : m.shared.mustWait = true)
      (clean : m.poisoned = false) :
      Move m d (.resume ticket)
        ({ m with
            waiters := m.waiters.map fun w =>
              if w.ticket = ticket then { w with parked := true } else w }, d)
  | collect (ticket) (woken : ⟨ticket, false⟩ ∈ m.waiters)
      (settled : m.shared.mustWait = false ∨ m.poisoned = true) :
      Move m d (.resume ticket)
        ({ m with
            shared := m.shared.collect.2
            waiters := m.waiters.filter fun w => w.ticket ≠ ticket
            returned := (ticket, m.shared.collect.1) :: m.returned }, d)
  | join (joining : m.closing = .joining) (settled : m.phase.isOver = true) :
      Move m d .join ({ m with closing := .relinquishing }, d)
  | relinquish (ready : m.closing = .relinquishing) :
      Move m d .relinquish ({ m with closing := .closed }, Display.release m.info.id d)
  | strayWakeRender (here : m.phase = .parked) :
      Move m d .strayWakeRender ({ m with phase := .seeking }, d)
  | strayWakeCaller (ticket) (parked : ⟨ticket, true⟩ ∈ m.waiters) :
      Move m d (.strayWakeCaller ticket)
        ({ m with
            waiters := m.waiters.map fun w =>
              if w.ticket = ticket then { w with parked := false } else w }, d)
  | outside (d') : Move m d (.outside d') (m, d')

variable {m : Machine σ} {d : δ}

omit [Renderer σ] in
theorem setState_of_started {wanted : Visibility} (alive : m.shared.isDead = false)
    (starts : m.shared.starts wanted = true) (present : m.shared.hasRenderer = true) :
    m.setState wanted .started = (.returned (.ok ()), { m with
      shared := { m.shared with
        thread := .running
        past := (.stopped, .start) :: m.shared.past
        hasRenderer := false
        requested := wanted }
      phase := .created }) := by
  obtain ⟨visible, stopped, _⟩ := (Session.starts_iff wanted m.shared).mp starts
  have legal := Visibility.ne_dead_of_isVisible visible
  simp [Machine.setState, Session.setState, Session.startThread, Lifecycle.transition,
    Lifecycle.after?, Session.apply, Lifecycle.apply, legal, alive, starts, stopped, present,
    Ending.isCrash, Lifecycle.isRunning]

omit [Renderer σ] in
theorem shutdown_of_running (alive : m.shared.isDead = false) (running : m.shared.thread = .running) :
    m.shutdown = { { m with
      shared := { m.shared with
        requested := .dead
        thread := .stopping
        past := (.running, .stop) :: m.shared.past } }.wakeAll with
      closing := .joining } := by
  simp [Machine.shutdown, Session.beginShutdown?, alive, running, Lifecycle.isRunning, Session.apply,
    Lifecycle.apply, Lifecycle.after?]

omit [Renderer σ] in
theorem shutdown_of_halted (alive : m.shared.isDead = false) (halted : m.shared.thread ≠ .running) :
    m.shutdown = { { m with shared := { m.shared with requested := .dead } }.wakeAll with
      closing := .joining } := by
  simp [Machine.shutdown, Session.beginShutdown?, alive, (Lifecycle.isRunning_eq_false_iff _).mpr halted]

theorem setState_move (m : Machine σ) (d : δ) (wanted : Visibility) (spawn : Spawn) :
    Move m d (.setState wanted spawn) ((m.setState wanted spawn).2, d) := by
  by_cases legal : wanted = .dead
  · have h : (m.setState wanted spawn).2 = m := by
      simp [Machine.setState, Session.setState, legal, Ending.isCrash]
    rw [h]
    exact .requestRefused wanted spawn
  cases dead : m.shared.isDead with
  | true =>
    have h : (m.setState wanted spawn).2 = m := by
      simp [Machine.setState, Session.setState, legal, dead, Ending.isCrash]
    rw [h]
    exact .requestRefused wanted spawn
  | false =>
    cases starts : m.shared.starts wanted with
    | false =>
      have h : (m.setState wanted spawn).2 =
          { m with shared := { m.shared with requested := wanted } } := by
        simp [Machine.setState, Session.setState, legal, dead, starts, Ending.isCrash]
      rw [h]
      exact .request wanted spawn dead legal starts
    | true =>
      obtain ⟨visible, stopped, sound⟩ := (Session.starts_iff wanted m.shared).mp starts
      cases present : m.shared.hasRenderer with
      | false =>
        have h : (m.setState wanted spawn).2 = m := by
          simp [Machine.setState, Session.setState, Session.startThread, Lifecycle.transition,
            Lifecycle.after?, legal, dead, starts, stopped, present, Ending.isCrash]
        rw [h]
        exact .requestRefused wanted spawn
      | true =>
        cases spawn with
        | started =>
          rw [setState_of_started dead starts present]
          exact .start wanted dead visible stopped sound present
        | refused reason =>
          have h : (m.setState wanted (.refused reason)).2 = { m with
              shared := { m.shared with
                thread := .stopped
                past := [(.stopping, .exited), (.running, .stop), (.stopped, .start)] ++ m.shared.past
                hasRenderer := false
                fault := some (.spawnFailed reason) } } := by
            simp [Machine.setState, Session.setState, Session.startThread, Lifecycle.transition,
              Lifecycle.after?, Session.apply, Lifecycle.apply, legal, dead, starts, stopped, present,
              Ending.isCrash]
          rw [h]
          exact .startRefused wanted reason dead visible stopped sound present
        | crashed crash =>
          have h : (m.setState wanted (.crashed crash)).2 = { m with
              shared := { m.shared with
                thread := .running
                past := (.stopped, .start) :: m.shared.past
                hasRenderer := false }
              poisoned := true } := by
            simp [Machine.setState, Session.setState, Session.startThread, Lifecycle.transition,
              Lifecycle.after?, Session.apply, Lifecycle.apply, legal, dead, starts, stopped, present,
              Ending.isCrash]
          rw [h]
          exact .startCrashed wanted crash dead visible stopped sound present

theorem acquire_move (m : Machine σ) (d : δ) : Move m d .acquire (m.acquire.2, d) := by
  cases dead : m.shared.isDead with
  | true =>
    have h : m.acquire = (.error .sessionDead, m) := by
      simp [Machine.acquire, Session.acquire, dead]
    rw [h]
    exact .acquireRefused .sessionDead (by rw [h])
  | false =>
    cases busy : m.shared.slot.busy with
    | true =>
      have h : m.acquire = (.error .busy, m) := by
        simp [Machine.acquire, Session.acquire, Slot.checkOut, dead, busy]
      rw [h]
      exact .acquireRefused .busy (by rw [h])
    | false =>
      have h : m.acquire.2 =
          { m with shared := { m.shared with slot := { m.shared.slot with busy := true } } } := by
        simp [Machine.acquire, Session.acquire, Slot.checkOut, dead, busy]
      rw [h]
      exact .acquire dead busy

theorem release_move (m : Machine σ) (d : δ) (ticket : Nat) (c : Checkout)
    (h : m.Enabled (.release ticket c : Event δ)) :
    Move m d (.release ticket c) (m.release ticket c, d) := by
  obtain ⟨unused, unreturned⟩ := unused_of_enabled h
  cases valid : m.shared.slot.validate c with
  | error e =>
    simpa [Machine.release, Session.release_of_invalid valid] using
      Move.rejected (d := d) ticket c e unused unreturned valid
  | ok =>
    have returned (off : m.shared.isDead = true ∨
        m.shared.requested.isVisible = true ∧ m.shared.thread ≠ .running) :
        Move m d (.release ticket c) (m.release ticket c, d) := by
      simpa [Machine.release, Session.release_of_off valid off] using
        Move.releasedIdle (d := d) ticket c unused unreturned valid off
    cases dead : m.shared.isDead with
    | true => exact returned (.inl dead)
    | false =>
      cases visible : m.shared.requested.isVisible with
      | false =>
        simpa [Machine.release, Session.release_of_hidden valid dead visible] using
          Move.discarded (d := d) ticket c unused unreturned valid dead visible
      | true =>
        by_cases running : m.shared.thread = .running
        · by_cases idle : m.shared.handoff = .idle
          · simpa [Machine.release, Session.release_of_idle valid dead visible running idle] using
              Move.handOver (d := d) ticket c unused unreturned valid dead running visible idle
          · simpa [Machine.release, Session.release_of_occupied valid dead visible running idle]
              using Move.offerRefused (d := d) ticket c unused unreturned valid dead visible running
                idle
        · exact returned (.inr ⟨visible, running⟩)

theorem reallocate_move (m : Machine σ) (d : δ) (shape : BufferShape) :
    Move m d (.reallocate shape) ((m.reallocate shape).2, d) := by
  cases dead : m.shared.isDead with
  | true =>
    have h : (m.reallocate shape).2 = m := by simp [Machine.reallocate, Session.reallocate, dead]
    rw [h]
    exact .reallocateRefused shape
  | false =>
    by_cases idle : m.shared.handoff = .idle
    · cases valid : shape.check with
      | error e =>
        have h : (m.reallocate shape).2 = m := by
          simp [Machine.reallocate, Session.reallocate, dead, idle, valid, Handoff.isIdle]
        rw [h]
        exact .reallocateRefused shape
      | ok =>
        have h : (m.reallocate shape).2 =
            { m with shared := { m.shared with slot := m.shared.slot.reallocate shape } } := by
          simp [Machine.reallocate, Session.reallocate, dead, idle, valid, Handoff.isIdle]
        rw [h]
        exact .reallocate shape dead idle valid
    · have h : (m.reallocate shape).2 = m := by
        cases occupied : m.shared.handoff <;>
          simp_all [Machine.reallocate, Session.reallocate, Handoff.isIdle]
      rw [h]
      exact .reallocateRefused shape

theorem shutdown_move (m : Machine σ) (d : δ) : Move m d .shutdown (m.shutdown, d) := by
  cases dead : m.shared.isDead with
  | true =>
    have h : m.shutdown = m := by simp [Machine.shutdown, Session.beginShutdown?, dead]
    rw [h]
    exact .shutdownAgain dead
  | false =>
    by_cases running : m.shared.thread = .running
    · rw [shutdown_of_running dead running]
      exact .shutdownRunning dead running
    · rw [shutdown_of_halted dead running]
      exact .shutdownHalted dead running

theorem seek_move (m : Machine σ) (d : δ) (here : m.phase = .seeking) :
    Move m d .work (m.work d) := by
  by_cases running : m.shared.thread = .running
  · cases ready : m.shared.handoff.isReady with
    | false =>
      have h : m.work d = ({ m with phase := .parked }, d) := by
        simp [Machine.work, here, Session.nextFrame_of_not_ready running ready]
      rw [h]
      exact .park here running ready
    | true =>
      obtain ⟨frame, hr⟩ := Handoff.ready_of_isReady ready
      cases visible : m.shared.requested.isVisible with
      | true =>
        have h : m.work d = ({ m with
            shared := { m.shared with handoff := .rendering }
            phase := .composing { frame with layers := Layer.inDrawingOrder frame.layers }
            calls := .compose frame.buffer (Layer.inDrawingOrder frame.layers) :: m.calls }, d) := by
          simp [Machine.work, here, Session.nextFrame_of_ready running hr, visible]
        rw [h]
        exact .take frame here running hr visible
      | false =>
        have h : m.work d = ({ m with
            shared := { m.shared with handoff := .rendering }
            phase := .publishing .discarded }, d) := by
          simp [Machine.work, here, Session.nextFrame_of_ready running hr, visible]
        rw [h]
        exact .skip frame here running hr visible
  · have h : m.work d = ({ m with phase := .leaving false }, d) := by
      simp [Machine.work, here, Session.nextFrame_of_halted running]
    rw [h]
    exact .stop here running

theorem work_move (m : Machine σ) (d : δ) (h : m.phase.canWork = true) :
    Move m d .work (m.work d) := by
  cases here : m.phase with
  | absent | parked | gone => simp [here, Phase.canWork] at h
  | created =>
    have h : m.work d = ({ m with
        phase := .starting m.shared.slot.live.shape
        calls := .start m.shared.slot.live.shape :: m.calls }, d) := by
      simp [Machine.work, here]
    rw [h]
    exact .begin here
  | starting shape =>
    rcases reply : Renderer.start shape m.renderer with ⟨_ | reason | _, renderer⟩
    · simpa [Machine.work, here, reply] using Move.started (d := d) shape renderer here reply
    · simpa [Machine.work, here, reply] using
        Move.startFailed (d := d) shape renderer reason here reply
    · simpa [Machine.work, here, reply] using Move.startBroke (d := d) shape renderer here reply
  | failing e => simpa [Machine.work, here] using Move.recordFault (d := d) e here
  | seeking => exact seek_move m d here
  | composing frame =>
    rcases reply : Renderer.compose frame.buffer frame.layers m.renderer with
      ⟨_ | reason | _, renderer⟩
    · simpa [Machine.work, here, reply] using Move.composed (d := d) frame renderer here reply
    · simpa [Machine.work, here, reply] using
        Move.composeFailed (d := d) frame renderer reason here reply
    · simpa [Machine.work, here, reply] using Move.composeBroke (d := d) frame renderer here reply
  | presenting frame =>
    rcases reply : Display.present m.resource frame d with ⟨_ | reason | _, d'⟩
    · simpa [Machine.work, here, reply] using Move.presented frame d' here reply
    · simpa [Machine.work, here, reply] using Move.presentFailed frame d' reason here reply
    · simpa [Machine.work, here, reply] using Move.presentBroke frame d' here reply
  | publishing r => simpa [Machine.work, here] using Move.publish (d := d) r here
  | leaving crashed => simpa [Machine.work, here] using Move.leave (d := d) crashed here

theorem resume_move (m : Machine σ) (d : δ) (ticket : Nat) (h : m.hasWaiter ticket false = true) :
    Move m d (.resume ticket) (m.resume ticket, d) := by
  have woken := mem_waiters_of_hasWaiter h
  by_cases must : m.shared.mustWait = true ∧ m.poisoned = false
  · have h : m.resume ticket = { m with
        waiters := m.waiters.map fun w =>
          if w.ticket = ticket then { w with parked := true } else w } := by
      simp [Machine.resume, must]
    rw [h]
    exact .waitOn ticket woken must.1 must.2
  · have settled : m.shared.mustWait = false ∨ m.poisoned = true := by
      cases hw : m.shared.mustWait <;> cases hp : m.poisoned <;> simp_all
    have h : m.resume ticket = { m with
        shared := m.shared.collect.2
        waiters := m.waiters.filter fun w => w.ticket ≠ ticket
        returned := (ticket, m.shared.collect.1) :: m.returned } := by
      rcases settled with settled | settled <;> simp [Machine.resume, settled]
    rw [h]
    exact .collect ticket woken settled

theorem next_move (m : Machine σ) (d : δ) (e : Event δ) (h : m.Enabled e) :
    Move m d e (m.next d e) := by
  cases e with
  | setState wanted spawn => exact setState_move m d wanted spawn
  | acquire => exact acquire_move m d
  | release ticket c => exact release_move m d ticket c h
  | reallocate shape => exact reallocate_move m d shape
  | shutdown => exact shutdown_move m d
  | work => exact work_move m d h
  | resume ticket => exact resume_move m d ticket h
  | join => exact .join h.1 h.2
  | relinquish => exact .relinquish h
  | strayWakeRender =>
    have here : m.phase = .parked := h
    simpa [Machine.next, here, Phase.notified] using Move.strayWakeRender (d := d) here
  | strayWakeCaller ticket => exact .strayWakeCaller ticket (mem_waiters_of_hasWaiter h)
  | outside d' => exact .outside d'

omit [Renderer σ] in
theorem create_cases (info : DisplayInfo) (shape : BufferShape) (renderer : σ) (d : HeadlessDisplay) :
    (∃ cause, shape.check = .error cause ∧
      create info shape renderer d = (.error (.badShape cause), d)) ∨
    (∃ cause, shape.check = .ok () ∧ (d.refusing = true ∨ d.owner ≠ none) ∧
      create info shape renderer d =
        (.error (.notAcquired info.id cause), { d with acquireCalls := d.acquireCalls + 1 })) ∨
    (shape.check = .ok () ∧ d.refusing = false ∧ d.owner = none ∧
      create info shape renderer d = (.ok (fresh info info.id shape renderer),
        { d with acquireCalls := d.acquireCalls + 1, owner := some info.id })) := by
  cases valid : shape.check with
  | error cause => exact .inl ⟨cause, rfl, by simp [create, valid]⟩
  | ok =>
    right
    cases refusing : d.refusing with
    | true =>
      left
      exact ⟨.refused info.id, rfl, .inl rfl, by simp [create, valid, HeadlessDisplay.acquire, refusing]⟩
    | false =>
      cases owner : d.owner with
      | some id =>
        left
        exact ⟨.taken id, rfl, .inr (by simp), by
          simp [create, valid, HeadlessDisplay.acquire, refusing, owner]⟩
      | none =>
        right
        exact ⟨rfl, rfl, rfl, by simp [create, valid, HeadlessDisplay.acquire, refusing, owner]⟩

end DisplaySurface.Machine
