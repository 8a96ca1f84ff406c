import DisplaySurface.Proofs.Machine.Backing
import DisplaySurface.Proofs.Machine.Outcomes
import DisplaySurface.Proofs.Machine.Promotion

/-!
Displays that are hidden. Whether a frame is drawn is looked at twice: by the release that hands it over
and by the render thread that takes it. A frame that either finds hidden is counted and comes to nothing,
and its release returns as if it had been shown.
-/

namespace DisplaySurface

def Undrawn (es : List Entry) (t : Nat) : Prop :=
  (∀ buffer layers, .drawn (some t) buffer layers ∉ es) ∧
    ∀ frame reply, .shown (some t) frame reply ∉ es

namespace Sound

variable {es : List Entry} {t : Nat}

theorem undrawn (h : Sound es) (none : ∀ buffer layers, .drawn (some t) buffer layers ∉ es) :
    Undrawn es t := by
  refine ⟨none, fun frame reply shown => ?_⟩
  obtain ⟨buffer, layers, drawn⟩ := h.drawn_of_composed (h.composed_of_shown shown)
  exact none buffer layers drawn

theorem undrawn_of_unhanded (h : Sound es) (unhanded : ∀ layers, .handedOver t layers ∉ es) :
    Undrawn es t := by
  refine h.undrawn fun buffer layers drawn => ?_
  obtain ⟨_, handed, ⟨⟩, mem⟩ := h.handed_of_drawn drawn
  exact unhanded handed mem

theorem undrawn_of_hidden (h : Sound es) {v : Visibility} (taken : .taken (some t) v ∈ es)
    (hidden : v.isVisible = false) : Undrawn es t := by
  refine h.undrawn fun buffer layers drawn => ?_
  have visible := h.visible_of_drawn drawn taken
  simp [hidden] at visible

/-- A frame is composed or shown only after it was taken for a visible display. -/
theorem visible_before {newer older : List Entry} {e : Entry} {o : Option Nat}
    (h : Sound (newer ++ e :: older))
    (called : (∃ buffer layers, e = .drawn o buffer layers) ∨ ∃ frame reply, e = .shown o frame reply) :
    ∃ v, .taken o v ∈ older ∧ v.isVisible = true ∧
      ∀ v', .taken o v' ∈ newer ++ e :: older → v' = v := by
  obtain ⟨justified, sound⟩ := h.of_append
  have before : ∃ v, .taken o v ∈ older ∧ v.isVisible = true := by
    rcases called with ⟨buffer, layers, rfl⟩ | ⟨frame, reply, rfl⟩
    · exact justified.2.1
    · obtain ⟨⟨layers, drawn⟩, _⟩ := justified
      obtain ⟨v, taken⟩ := sound.taken_of_drawn drawn
      exact ⟨v, taken, sound.visible_of_drawn drawn taken⟩
  obtain ⟨v, taken, visible⟩ := before
  exact ⟨v, taken, visible, fun v' taken' => h.taken_unique taken' (by simp [taken])⟩

end Sound

theorem Journal.taken_of_noted {σ δ : Type} [Renderer σ] [Display δ] {m : Machine σ} {d : δ}
    {e : Event δ} {j : Journal} {o : Option Nat} {v : Visibility}
    (mem : .taken o v ∈ (j.noted m d e).entries) :
    .taken o v ∈ j.entries ∨ m.shared.thread = .running ∧ v = m.shared.requested := by
  cases e with
  | release ticket b =>
    left
    cases first : (m.shared.release b).1 <;> simpa [noted, release, first, write] using mem
  | resume ticket =>
    left
    by_cases waits : (m.shared.mustWait && !m.poisoned) = true
    · simpa only [noted, if_pos waits] using mem
    · simpa only [noted, if_neg waits, write, List.mem_cons, reduceCtorEq, false_or] using mem
  | shutdown =>
    left
    by_cases dead : m.shared.isDead = true
    · simpa only [noted, if_pos dead] using mem
    · simpa only [noted, if_neg dead, write, List.mem_cons, reduceCtorEq, false_or] using mem
  | work =>
    cases here : m.phase with
    | seeking =>
      by_cases running : m.shared.thread = .running
      · cases ready : m.shared.handoff.isReady with
        | false => exact .inl (by simpa only [noted_of_empty here running ready] using mem)
        | true =>
          obtain ⟨frame, ready⟩ := Handoff.ready_of_isReady ready
          cases visible : m.shared.requested.isVisible with
          | false =>
            simp only [noted_of_skip here running ready visible, List.mem_cons] at mem
            rcases mem with new | old
            · cases new
              exact .inr ⟨running, rfl⟩
            · exact .inl old
          | true =>
            simp only [noted_of_visible here running ready visible, List.mem_cons, reduceCtorEq,
              false_or] at mem
            rcases mem with new | old
            · cases new
              exact .inr ⟨running, rfl⟩
            · exact .inl old
      · exact .inl (by simpa only [noted_of_halted here running] using mem)
    | publishing => exact .inl (by simpa only [noted, here, entries_giveBack] using mem)
    | composing | presenting | leaving => exact .inl (by simpa [noted, here, write] using mem)
    | _ => exact .inl (by simpa only [noted, here] using mem)
  | _ => exact .inl mem

namespace Machine

variable {σ δ : Type}

def Single (m : Machine σ) : Prop :=
  (m.waiting ++ m.returned.map (·.1)).Nodup

theorem Single.onward {m m' : Machine σ} (h : Single m) (waiting : m'.waiting = m.waiting)
    (returned : m'.returned = m.returned) : Single m' := by
  rw [Single, waiting, returned]
  exact h

theorem Single.unreturned {m : Machine σ} (h : Single m) {t : Nat} (waits : t ∈ m.waiting)
    (outcome : Outcome) : (t, outcome) ∉ m.returned := by
  intro returned
  exact List.disjoint_of_nodup_append h waits (List.mem_map_of_mem returned)

theorem Single.outcome_unique {m : Machine σ} (h : Single m) {t : Nat} {outcome outcome' : Outcome}
    (told : (t, outcome) ∈ m.returned) (told' : (t, outcome') ∈ m.returned) : outcome = outcome' := by
  have once := List.Nodup.of_append_right h
  exact (Prod.mk.inj (List.inj_on_of_nodup_map once told told' rfl)).2

/-- How far a frame has come that was taken from a hidden display, unless the session is shut down. -/
inductive Skipped (m : Machine σ) (t : Nat) : Prop where
  | inHand (here : m.phase = .publishing .discarded) (waits : t ∈ m.waiting)
      (alive : m.shared.isDead = false)
  | done (here : m.phase = .seeking ∨ m.phase = .parked) (waits : t ∈ m.waiting)
      (alive : m.shared.isDead = false) (outcome : m.shared.handoff = .done (.ok ()))
  | returned (told : (t, .ok ()) ∈ m.returned)

theorem Lifetime.running_of_alive {m : Machine σ} (h : Lifetime m) (here : m.phase.isOver = false)
    (alive : m.shared.isDead = false) : m.shared.thread = .running := by
  by_contra halted
  exact h.not_stopped here (h.stopped_of_halted alive halted)

variable [Renderer σ] [Display δ] {m : Machine σ} {d : δ}

theorem step_returned {e : Event δ} {c : Machine σ × δ} (move : Move m d e c) :
    m.returned <:+ c.1.returned := by
  cases move with
  | rejected | releasedIdle | discarded | offerRefused | collect => exact List.suffix_cons _ _
  | _ => exact List.suffix_rfl

theorem step_preserves_single {e : Event δ} {c : Machine σ × δ} (passing : Passing m) (h : Single m)
    (move : Move m d e c) : Single c.1 := by
  have new {ticket : Nat} (unused : ticket ∉ m.waiting) (unreturned : ticket ∉ m.returned.map (·.1)) :
      (m.waiting ++ ticket :: m.returned.map (·.1)).Nodup := by
    rw [List.nodup_middle, List.nodup_cons]
    exact ⟨by simpa using ⟨unused, by simpa using unreturned⟩, h⟩
  cases move with
  | rejected ticket b _ unused unreturned | releasedIdle ticket b unused unreturned
  | discarded ticket b unused unreturned | offerRefused ticket b unused unreturned =>
    exact new unused unreturned
  | handOver ticket b unused unreturned =>
    have same : m.waiting ++ ticket :: m.returned.map (·.1) =
        (m.waiting ++ [ticket]) ++ m.returned.map (·.1) := by simp
    simpa [Single, waiting] using same ▸ new unused unreturned
  | shutdownRunning | shutdownHalted | leave => exact h.onward (waiting_wakeAll _) rfl
  | publish => exact h.onward (waiting_wakeCallers _) rfl
  | waitOn ticket => exact h.onward (waiting_mark m ticket true) rfl
  | strayWakeCaller ticket => exact h.onward (waiting_mark m ticket false) rfl
  | collect ticket woken =>
    have alone := passing.waiting_eq woken
    simpa [Single, waiting, alone] using h
  | _ => exact h

theorem step_keeps_phase {e : Event δ} {c : Machine σ × δ} (life : Lifetime m)
    (busy : m.phase.canWork = true) (other : e.isWork = false) (move : Move m d e c) :
    c.1.phase = m.phase := by
  have awake : m.phase.notified = m.phase := by
    rcases m.phase.notified_eq_or with same | parked
    · exact same
    · simp [parked, Phase.canWork] at busy
  cases move with
  | start _ _ _ _ _ present =>
    simp [life.renderer_absent present, Phase.canWork] at busy
  | handOver | shutdownRunning | shutdownHalted => exact awake
  | strayWakeRender here => simp [here, Phase.canWork] at busy
  | begin | started | startFailed | startBroke | recordFault | park | stop | take | skip | composed
  | composeFailed | composeBroke | presented | presentFailed | presentBroke | publish | leave =>
    cases other
  | _ => rfl

theorem step_keeps_done {e : Event δ} {c : Machine σ × δ} {t : Nat} {outcome : Outcome}
    (life : Lifetime m) (passing : Passing m) (here : m.phase = .seeking ∨ m.phase = .parked)
    (waits : t ∈ m.waiting) (alive : m.shared.isDead = false) (done : m.shared.handoff = .done outcome)
    (kept : e.isShutdown = false) (other : e ≠ .resume t) (move : Move m d e c) :
    (c.1.phase = .seeking ∨ c.1.phase = .parked) ∧ c.1.shared.handoff = .done outcome := by
  cases move with
  | start _ _ _ _ _ present =>
    simp [life.renderer_absent present] at here
  | handOver _ _ _ _ _ _ _ _ idle => simp [done] at idle
  | shutdownRunning | shutdownHalted => cases kept
  | park => exact ⟨.inr rfl, done⟩
  | stop seeking halted =>
    have stopped := life.stopped_of_halted alive halted
    exact absurd stopped (life.not_stopped (by simp [seeking, Phase.isOver]))
  | take _ _ _ ready | skip _ _ _ ready => simp [done] at ready
  | begin there | started _ _ there | startFailed _ _ _ there | startBroke _ _ there
  | recordFault _ there | composed _ _ there | composeFailed _ _ _ there | composeBroke _ _ there
  | presented _ _ there | presentFailed _ _ _ there | presentBroke _ _ there | publish _ there
  | leave _ there => simp [there] at here
  | strayWakeRender => exact ⟨.inl rfl, done⟩
  | collect ticket woken =>
    simp only [waiting, passing.waiting_eq woken, List.map_cons, List.map_nil,
      List.mem_singleton] at waits
    exact absurd (waits ▸ rfl) other
  | _ => exact ⟨here, done⟩

theorem step_preserves_skipped {e : Event δ} {t : Nat} (life : Lifetime m) (passing : Passing m)
    (h : Skipped m t) (enabled : m.Enabled e) (kept : e.isShutdown = false) :
    Skipped (m.next d e).1 t := by
  have move := next_move m d e enabled
  have stays (alive : m.shared.isDead = false) : (m.next d e).1.shared.isDead = false := by
    rw [← Bool.not_eq_true, step_isDead enabled]
    simp [alive, kept]
  cases h with
  | returned told => exact .returned ((step_returned move).subset told)
  | inHand here waits alive =>
    have rendering := passing.drawing_rendering (by simp [here, Phase.isDrawing])
    have busy : m.phase.canWork = true := by simp [here, Phase.canWork]
    cases work : e.isWork with
    | true =>
      obtain rfl : e = .work := by cases e <;> simp_all [Event.isWork]
      refine .done ?_ (step_keeps_waiting waits (by simp) move) (stays alive) ?_
      · exact .inl (by simp [next, Machine.work, here, wakeCallers])
      · simp [next, Machine.work, here, wakeCallers, Session.finishFrame_handoff rendering,
          Rendered.outcome]
    | false =>
      have there := (step_keeps_phase life busy work move).trans here
      by_cases own : e = .resume t
      · -- It has no outcome yet, so it waits on.
        subst own
        have running := life.running_of_alive (by simp [here, Phase.isOver]) alive
        have must := (Session.mustWait_eq_true_iff m.shared).mpr
          ⟨by simp [rendering, Handoff.isDone], alive, running⟩
        have clean := life.clean (by simp [here])
        have same : (m.next d (.resume t)).1.waiting = m.waiting := by
          simpa [next, resume, must, clean] using waiting_mark m t true
        exact .inHand there (same ▸ waits) (stays alive)
      · exact .inHand there (step_keeps_waiting waits own move) (stays alive)
  | done here waits alive outcome =>
    by_cases own : e = .resume t
    · subst own
      refine .returned ?_
      have settled : m.shared.mustWait = false :=
        (Session.mustWait_eq_false_iff _).mpr (.inl (by simp [outcome, Handoff.isDone]))
      simp [next, resume, settled, Session.collect_of_done outcome]
    · obtain ⟨there, still⟩ := step_keeps_done life passing here waits alive outcome kept own move
      exact .done there (step_keeps_waiting waits own move) (stays alive) still

theorem trace_preserves_single {c : (Machine σ × δ) × Journal} {es : List (Event δ)}
    (followed : Followed c) (h : Single c.1.1) (valid : (journaled σ δ).Valid c es) :
    Single ((journaled σ δ).run c es).1.1 := by
  induction es generalizing c with
  | nil => exact h
  | cons e es ih =>
    have move := next_move c.1.1 c.1.2 e valid.1.1
    exact ih (step_preserves_followed followed valid.1)
      (step_preserves_single followed.passing h move) valid.2

theorem trace_preserves_skipped {c : (Machine σ × δ) × Journal} {t : Nat} {es : List (Event δ)}
    (followed : Followed c) (h : Skipped c.1.1 t) (valid : (journaled σ δ).Valid c es)
    (kept : ∀ e ∈ es, e.isShutdown = false) : Skipped ((journaled σ δ).run c es).1.1 t := by
  induction es generalizing c with
  | nil => exact h
  | cons e es ih =>
    obtain ⟨first, rest⟩ := List.forall_mem_cons.mp kept
    exact ih (step_preserves_followed followed valid.1)
      (step_preserves_skipped followed.life followed.passing h valid.1.1 first) valid.2 rest

theorem trace_returned {c : (Machine σ × δ) × Journal} {es : List (Event δ)}
    (valid : (journaled σ δ).Valid c es) :
    c.1.1.returned <:+ ((journaled σ δ).run c es).1.1.returned := by
  induction es generalizing c with
  | nil => exact List.suffix_rfl
  | cons e es ih => exact (step_returned (next_move c.1.1 c.1.2 e valid.1.1)).trans (ih valid.2)

theorem trace_keeps_inHand {c : (Machine σ × δ) × Journal} {es : List (Event δ)}
    (followed : Followed c) (busy : c.1.1.phase.canWork = true) (valid : (journaled σ δ).Valid c es)
    (others : ∀ e ∈ es, e.isWork = false) :
    ((journaled σ δ).run c es).1.1.phase = c.1.1.phase ∧
      ((journaled σ δ).run c es).2.inHand = c.2.inHand := by
  induction es generalizing c with
  | nil => exact ⟨rfl, rfl⟩
  | cons e es ih =>
    obtain ⟨first, rest⟩ := List.forall_mem_cons.mp others
    have move := next_move c.1.1 c.1.2 e valid.1.1
    have phase : ((journaled σ δ).next c e).1.1.phase = c.1.1.phase :=
      step_keeps_phase followed.life busy first move
    have inHand : ((journaled σ δ).next c e).2.inHand = c.2.inHand :=
      Journal.inHand_noted c.2 (by rintro rfl; cases first)
    obtain ⟨phase', inHand'⟩ :=
      ih (step_preserves_followed followed valid.1) (phase.symm ▸ busy) valid.2 rest
    exact ⟨phase'.trans phase, inHand'.trans inHand⟩

/-- A frame that was taken and put down is not taken again. -/
theorem step_puts_down {c : (Machine σ × δ) × Journal} {e : Event δ} {t : Nat} {v : Visibility}
    (followed : Followed c) (taken : .taken (some t) v ∈ c.2.entries) (down : c.2.inHand ≠ some t) :
    ((journaled σ δ).next c e).2.inHand ≠ some t := by
  change (c.2.noted c.1.1 c.1.2 e).inHand ≠ some t
  by_cases work : e = .work
  · subst work
    cases here : c.1.1.phase with
    | seeking =>
      by_cases running : c.1.1.shared.thread = .running
      · cases ready : c.1.1.shared.handoff.isReady with
        | false => rwa [Journal.noted_of_empty here running ready]
        | true =>
          obtain ⟨frame, ready⟩ := Handoff.ready_of_isReady ready
          obtain ⟨t', owner, _, untaken⟩ := followed.booked.ready frame ready
          have other : c.2.offered ≠ some t := by
            rw [owner]
            rintro ⟨⟩
            exact untaken v taken
          cases visible : c.1.1.shared.requested.isVisible with
          | false => rwa [Journal.noted_of_skip here running ready visible]
          | true => rwa [Journal.noted_of_visible here running ready visible]
      · rwa [Journal.noted_of_halted here running]
    | publishing r =>
      have rendering := followed.passing.drawing_rendering (by simp [here, Phase.isDrawing])
      simp [Journal.noted_of_publishing here rendering]
    | _ => simpa only [Journal.noted, here, Journal.write] using down
  · rwa [Journal.inHand_noted c.2 work]

theorem trace_puts_down {c : (Machine σ × δ) × Journal} {es : List (Event δ)} {t : Nat} {v : Visibility}
    (followed : Followed c) (taken : .taken (some t) v ∈ c.2.entries) (down : c.2.inHand ≠ some t)
    (valid : (journaled σ δ).Valid c es) : ((journaled σ δ).run c es).2.inHand ≠ some t := by
  induction es generalizing c with
  | nil => exact down
  | cons e es ih =>
    have kept := (Journal.suffix_noted c.1.1 c.1.2 e c.2).subset taken
    exact ih (step_preserves_followed followed valid.1) kept (step_puts_down followed taken down) valid.2

def Redirects (c : (Machine σ × δ) × Journal) (e : Event δ) : Prop :=
  (c.1.1.next c.1.2 e).1.shared.requested ≠ c.1.1.shared.requested

instance (c : (Machine σ × δ) × Journal) (e : Event δ) : Decidable (Redirects c e) :=
  inferInstanceAs (Decidable (_ ≠ _))

theorem trace_keeps_requested {c : (Machine σ × δ) × Journal} {es : List (Event δ)}
    (same : (journaled σ δ).Avoids Redirects c es) :
    ((journaled σ δ).run c es).1.1.shared.requested = c.1.1.shared.requested := by
  induction es generalizing c with
  | nil => rfl
  | cons e es ih =>
    have first : ((journaled σ δ).next c e).1.1.shared.requested = c.1.1.shared.requested :=
      not_not.mp same.1
    exact (ih same.2).trans first

theorem next_of_hidden {c : (Machine σ × δ) × Journal} (ticket : Nat) {b : Checkout}
    (current : b.fingerprint = c.1.1.shared.slot.live.fingerprint)
    (out : c.1.1.shared.slot.busy = true) (hidden : c.1.1.shared.requested = .notVisible) :
    (journaled σ δ).next c (.release ticket b) =
      (({ c.1.1 with
          shared := { c.1.1.shared with
            slot := { c.1.1.shared.slot with busy := false }
            tally := { c.1.1.shared.tally with discarded := c.1.1.shared.tally.discarded + 1 } }
          returned := (ticket, .ok ()) :: c.1.1.returned }, c.1.2),
        c.2.write (.returned ticket (.ok ()))) := by
  have valid := (Slot.validate_eq_ok_iff _ b).mpr ⟨current, out⟩
  have alive : c.1.1.shared.isDead = false := by simp [Session.isDead, hidden]
  have unseen : c.1.1.shared.requested.isVisible = false := by simp [hidden, Visibility.isVisible]
  have step : (journaled σ δ).next c (.release ticket b) =
      ((c.1.1.release ticket b, c.1.2), c.2.noted c.1.1 c.1.2 (.release ticket b)) := rfl
  rw [step, Journal.noted_of_hidden valid alive unseen]
  simp [release, Session.release_of_hidden valid alive unseen, Session.checkIn, Slot.checkIn]

theorem next_of_skip {c : (Machine σ × δ) × Journal} {frame : Submission} (followed : Followed c)
    (here : c.1.1.phase = .seeking) (running : c.1.1.shared.thread = .running)
    (ready : c.1.1.shared.handoff = .ready frame) (hidden : c.1.1.shared.requested.isVisible = false) :
    ∃ t, .handedOver t frame.layers ∈ c.2.entries ∧ t ∈ c.1.1.waiting ∧
      (journaled σ δ).next c .work =
        (({ c.1.1 with
            shared := { c.1.1.shared with handoff := .rendering }
            phase := .publishing .discarded }, c.1.2),
          { c.2 with
            inHand := some t
            entries := .taken (some t) c.1.1.shared.requested :: c.2.entries }) := by
  obtain ⟨t, owner, handed, _⟩ := followed.booked.ready frame ready
  have alive := followed.life.running_alive running
  refine ⟨t, handed, followed.booked.owner_waits followed.passing alive (by simp [ready]) owner, ?_⟩
  have step : (journaled σ δ).next c .work = (c.1.1.work c.1.2, c.2.noted c.1.1 c.1.2 .work) := rfl
  rw [step, Journal.noted_of_skip here running ready hidden]
  simp [work, here, Session.nextFrame_of_ready running ready, hidden, owner]

/-- What becomes of the frame of a release, after it was taken from a hidden display and these events
happened. Only frames in the thread's hands are counted by it, and the frame is in its hands once. -/
structure PassedOver (took : (Machine σ × δ) × Journal) (t : Nat) (fs : List (Event δ)) : Prop where
  undrawn : Undrawn ((journaled σ δ).run took fs).2.entries t
  counted : (∀ e ∈ fs, e.isWork = false) →
    let now := (journaled σ δ).run took fs
    let finished := (journaled σ δ).next now .work
    now.2.inHand = some t ∧ (journaled σ δ).Enabled now .work ∧
      finished.1.1.shared.tally = { now.1.1.shared.tally with
        discarded := now.1.1.shared.tally.discarded + 1 } ∧
      ∀ ks, (journaled σ δ).Valid finished ks → ((journaled σ δ).run finished ks).2.inHand ≠ some t
  unharmed : ∀ outcome, (t, outcome) ∈ ((journaled σ δ).run took fs).1.1.returned →
    outcome = .ok () ∨ ∃ early late, fs = early ++ .shutdown :: late ∧
      t ∈ ((journaled σ δ).run took early).1.1.waiting
  returns : (∀ e ∈ fs, e.isShutdown = false) →
    let now := (journaled σ δ).run took fs
    (t, .ok ()) ∈ now.1.1.returned ∨
      now.2.inHand = some t ∧ (journaled σ δ).Enabled now .work ∨
      (journaled σ δ).Enabled now (.resume t) ∧
        (t, .ok ()) ∈ ((journaled σ δ).next now (.resume t)).1.1.returned

theorem reachable_single (info : DisplayInfo) (resource : UInt64) (shape : BufferShape) (renderer : σ)
    (d : δ) {c : (Machine σ × δ) × Journal}
    (h : (journaled σ δ).Reachable ((Machine.fresh info resource shape renderer, d), {}) c) :
    Single c.1.1 := by
  obtain ⟨es, valid, rfl⟩ := h
  exact trace_preserves_single (Followed.initial info resource shape renderer d)
    (by simp [Single, Machine.fresh, waiting]) valid

theorem resume_of_done {t : Nat} {outcome : Outcome} (passing : Passing m) (waits : t ∈ m.waiting)
    (done : m.shared.handoff = .done outcome) :
    m.Enabled (.resume t : Event δ) ∧ (t, outcome) ∈ (m.next d (.resume t)).1.returned := by
  have settled : m.shared.mustWait = false :=
    (Session.mustWait_eq_false_iff _).mpr (.inl (by simp [done, Handoff.isDone]))
  obtain ⟨w, hw, rfl⟩ := List.mem_map.mp waits
  have awake : w.parked = false := by
    by_contra asleep
    have must := passing.parked_must w.ticket (by simpa [← Bool.eq_true_of_not_eq_false asleep] using hw)
    simp [settled] at must
  refine ⟨?_, by simp [next, resume, settled, Session.collect_of_done done]⟩
  simp only [Enabled, hasWaiter, List.any_eq_true]
  exact ⟨w, hw, by simp [awake]⟩

section Skipping

variable {took : (Machine σ × δ) × Journal} {t : Nat} {fs : List (Event δ)}

/-- The frame is counted and put down with the thread's next step, whenever that is. -/
theorem counted_of_discarding {v : Visibility} (followed : Followed took)
    (here : took.1.1.phase = .publishing .discarded) (owner : took.2.inHand = some t)
    (taken : .taken (some t) v ∈ took.2.entries) (valid : (journaled σ δ).Valid took fs)
    (others : ∀ e ∈ fs, e.isWork = false) :
    let now := (journaled σ δ).run took fs
    let finished := (journaled σ δ).next now .work
    now.2.inHand = some t ∧ (journaled σ δ).Enabled now .work ∧
      finished.1.1.shared.tally = { now.1.1.shared.tally with
        discarded := now.1.1.shared.tally.discarded + 1 } ∧
      ∀ ks, (journaled σ δ).Valid finished ks → ((journaled σ δ).run finished ks).2.inHand ≠ some t := by
  intro now finished
  have after : Followed now := trace_preserves_followed followed valid
  obtain ⟨phase, inHand⟩ := trace_keeps_inHand followed (by simp [here, Phase.canWork]) valid others
  have there : now.1.1.phase = .publishing .discarded := phase.trans here
  have enabled : (journaled σ δ).Enabled now .work := by
    refine ⟨?_, trivial⟩
    simp [system, Enabled, there, Phase.canWork]
  refine ⟨inHand.trans owner, enabled, ?_, fun ks valid' => ?_⟩
  · simp [finished, journaled, System.observed, system, next, work, there, wakeCallers,
      Session.finishFrame, Tally.count]
  · have rendering := after.passing.drawing_rendering (by simp [there, Phase.isDrawing])
    have down : finished.2.inHand ≠ some t := by
      change (now.2.noted now.1.1 now.1.2 .work).inHand ≠ some t
      simp [Journal.noted_of_publishing there rendering]
    have kept := (Journal.suffix_noted now.1.1 now.1.2 .work now.2).subset
      ((suffix_run took fs).subset taken)
    exact trace_puts_down (step_preserves_followed after enabled) kept down valid'

/-- Nothing but a shutdown that its release is still waiting for keeps the frame from its outcome. -/
theorem unharmed_of_skipped (followed : Followed took) (single : Single took.1.1)
    (skipped : Skipped took.1.1 t) (valid : (journaled σ δ).Valid took fs) {outcome : Outcome}
    (told : (t, outcome) ∈ ((journaled σ δ).run took fs).1.1.returned) :
    outcome = .ok () ∨ ∃ early late, fs = early ++ .shutdown :: late ∧
      t ∈ ((journaled σ δ).run took early).1.1.waiting := by
  have once := trace_preserves_single followed single valid
  cases found : fs.find? (·.isShutdown) with
  | none =>
    have kept : ∀ e ∈ fs, e.isShutdown = false := by simpa using List.find?_eq_none.mp found
    left
    cases trace_preserves_skipped followed skipped valid kept with
    | returned ok => exact once.outcome_unique told ok
    | inHand _ waits | done _ waits => exact absurd told (once.unreturned waits outcome)
  | some e =>
    obtain ⟨shut, early, late, rfl, before⟩ := List.find?_eq_some_iff_append.mp found
    obtain rfl : e = .shutdown := by cases e <;> simp_all [Event.isShutdown]
    obtain ⟨valid', later⟩ := (System.valid_append _ _ early _).mp valid
    cases trace_preserves_skipped followed skipped valid' (by simpa using before) with
    | returned ok =>
      left
      have kept := (trace_returned later).subset ok
      rw [← System.run_append] at kept
      exact once.outcome_unique told kept
    | inHand _ waits | done _ waits => exact .inr ⟨early, late, rfl, waits⟩

theorem returns_of_skipped (followed : Followed took) (skipped : Skipped took.1.1 t)
    (valid : (journaled σ δ).Valid took fs) (kept : ∀ e ∈ fs, e.isShutdown = false) :
    let now := (journaled σ δ).run took fs
    (t, .ok ()) ∈ now.1.1.returned ∨
      now.2.inHand = some t ∧ (journaled σ δ).Enabled now .work ∨
      (journaled σ δ).Enabled now (.resume t) ∧
        (t, .ok ()) ∈ ((journaled σ δ).next now (.resume t)).1.1.returned := by
  intro now
  have after : Followed now := trace_preserves_followed followed valid
  cases trace_preserves_skipped followed skipped valid kept with
  | returned ok => exact .inl ok
  | inHand there waits =>
    right; left
    have drawing : now.1.1.phase.isDrawing = true := by simp [now, there, Phase.isDrawing]
    have offered := (after.booked.own t waits).resolve_left
      (by simp [after.passing.drawing_rendering drawing])
    refine ⟨(after.booked.drawing drawing).trans offered, ?_, trivial⟩
    simp [system, Enabled, now, there, Phase.canWork]
  | done _ waits _ outcome =>
    right; right
    obtain ⟨enabled, told⟩ := resume_of_done (d := now.1.2) after.passing waits outcome
    exact ⟨⟨enabled, trivial⟩, told⟩

theorem passedOver_of_skipped {v : Visibility} (followed : Followed took) (single : Single took.1.1)
    (skipped : Skipped took.1.1 t) (here : took.1.1.phase = .publishing .discarded)
    (owner : took.2.inHand = some t) (taken : .taken (some t) v ∈ took.2.entries)
    (hidden : v.isVisible = false) (valid : (journaled σ δ).Valid took fs) : PassedOver took t fs where
  undrawn := (trace_preserves_followed followed valid).booked.sound.undrawn_of_hidden
    ((suffix_run took fs).subset taken) hidden
  counted := counted_of_discarding followed here owner taken valid
  unharmed := fun _ => unharmed_of_skipped followed single skipped valid
  returns := returns_of_skipped followed skipped valid

end Skipping

theorem passedOver_of_hidden (info : DisplayInfo) (resource : UInt64) (shape : BufferShape)
    (renderer : σ) (d : δ) {c : (Machine σ × δ) × Journal} {frame : Submission}
    (h : (journaled σ δ).Reachable ((Machine.fresh info resource shape renderer, d), {}) c)
    (here : c.1.1.phase = .seeking) (running : c.1.1.shared.thread = .running)
    (ready : c.1.1.shared.handoff = .ready frame) (hidden : c.1.1.shared.requested = .notVisible) :
    let took := (journaled σ δ).next c .work
    ∃ t, .handedOver t frame.layers ∈ c.2.entries ∧
      took.2.entries = .taken (some t) .notVisible :: c.2.entries ∧
      ∀ fs, (journaled σ δ).Valid took fs → PassedOver took t fs := by
  intro took
  have followed := reachable_followed info resource shape renderer d h
  have unseen : c.1.1.shared.requested.isVisible = false := by simp [hidden, Visibility.isVisible]
  obtain ⟨t, handed, waits, step⟩ := next_of_skip followed here running ready unseen
  have enabled : (journaled σ δ).Enabled c .work := by
    refine ⟨?_, trivial⟩
    simp [system, Enabled, here, Phase.canWork]
  have entries : took.2.entries = .taken (some t) .notVisible :: c.2.entries := by
    simp only [took, step, hidden]
  refine ⟨t, handed, entries, fun fs valid => ?_⟩
  have there : took.1.1.phase = .publishing .discarded := by simp only [took, step]
  have alive : took.1.1.shared.isDead = false := by
    simp only [took, step, Session.isDead, hidden]
    rfl
  have waits' : t ∈ took.1.1.waiting := by
    simp only [took, step]
    exact waits
  have single := reachable_single info resource shape renderer d (h.tail enabled)
  refine passedOver_of_skipped (v := .notVisible) (step_preserves_followed followed enabled) single
    (.inHand there waits' alive) there ?_ ?_ rfl valid
  · simp only [took, step]
  · rw [entries]
    exact List.mem_cons_self

/-- A frame is composed and shown only if the display was to be visible when the render thread took it,
and none is taken from a session that was shut down. A release that finds the display hidden is over at
once: it is counted and has no frame. Where the display was hidden last before a frame is taken, the frame
is not drawn but counted once, in the thread's next step, and its release returns without an error or is
about to, unless a shutdown comes before. -/
theorem frames_are_drawn_only_when_visible (info : DisplayInfo) (resource : UInt64)
    (shape : BufferShape) (renderer : σ) (d : δ) {c : (Machine σ × δ) × Journal}
    (h : (journaled σ δ).Reachable ((Machine.fresh info resource shape renderer, d), {}) c) :
    (Recorded c.1.1 c.2 ∧ ∀ newer e older o, c.2.entries = newer ++ e :: older →
      (∃ buffer layers, e = .drawn o buffer layers) ∨ (∃ frame reply, e = .shown o frame reply) →
        ∃ v, .taken o v ∈ older ∧ v.isVisible = true ∧ ∀ v', .taken o v' ∈ c.2.entries → v' = v) ∧
    (∀ e, (journaled σ δ).Enabled c e → ∀ o v, .taken o v ∈ ((journaled σ δ).next c e).2.entries →
      .taken o v ∈ c.2.entries ∨ v = c.1.1.shared.requested ∧ v ≠ .dead) ∧
    (∀ ticket b fs, (journaled σ δ).Valid c (.release ticket b :: fs) →
      b.fingerprint = c.1.1.shared.slot.live.fingerprint → c.1.1.shared.slot.busy = true →
      c.1.1.shared.requested = .notVisible →
        (journaled σ δ).next c (.release ticket b) =
          (({ c.1.1 with
              shared := { c.1.1.shared with
                slot := { c.1.1.shared.slot with busy := false }
                tally := { c.1.1.shared.tally with discarded := c.1.1.shared.tally.discarded + 1 } }
              returned := (ticket, .ok ()) :: c.1.1.returned }, c.1.2),
            c.2.write (.returned ticket (.ok ()))) ∧
        Undrawn ((journaled σ δ).run c (.release ticket b :: fs)).2.entries ticket) ∧
    ∀ spawn gs frame, (c.1.1.setState .notVisible spawn).1 = .returned (.ok ()) →
      (journaled σ δ).Valid c (.setState .notVisible spawn :: gs) →
      (journaled σ δ).Avoids Redirects ((journaled σ δ).next c (.setState .notVisible spawn)) gs →
      let before := (journaled σ δ).run c (.setState .notVisible spawn :: gs)
      before.1.1.phase = .seeking → before.1.1.shared.thread = .running →
      before.1.1.shared.handoff = .ready frame →
      let took := (journaled σ δ).next before .work
      ∃ t, .handedOver t frame.layers ∈ before.2.entries ∧
        took.2.entries = .taken (some t) .notVisible :: before.2.entries ∧
        ∀ fs, (journaled σ δ).Valid took fs → PassedOver took t fs := by
  have followed := reachable_followed info resource shape renderer d h
  refine ⟨⟨followed.recorded, ?_⟩, ?_, ?_, ?_⟩
  · intro newer e older o entries called
    have sound := followed.booked.sound
    rw [entries] at sound ⊢
    exact sound.visible_before called
  · intro e enabled o v mem
    rcases Journal.taken_of_noted mem with old | ⟨running, rfl⟩
    · exact .inl old
    · have alive := followed.life.running_alive running
      exact .inr ⟨rfl, by simpa [Session.isDead] using alive⟩
  · intro ticket b fs valid current out hidden
    have step := next_of_hidden (c := c) ticket current out hidden
    have after := reachable_followed info resource shape renderer d (h.trace valid)
    have enabled : c.1.1.Enabled (.release ticket b : Event δ) := valid.1.1
    obtain ⟨unused, unreturned⟩ := unused_of_enabled enabled
    have fresh := followed.booked.fresh unused unreturned
    obtain ⟨newer, entries⟩ :=
      suffix_run ((journaled σ δ).next c (.release ticket b)) fs
    have sound := after.booked.sound
    rw [System.run_cons] at sound ⊢
    rw [← entries, step] at sound ⊢
    exact ⟨rfl, sound.undrawn_of_unhanded (sound.unhanded_of_returned fresh)⟩
  · intro spawn gs frame accepted valid same before here running ready
    have asked : (c.1.1.setState .notVisible spawn).2.shared.requested = .notVisible := by
      have answered := Session.setState_requested .notVisible spawn c.1.1.shared
      have ending : (c.1.1.shared.setState .notVisible spawn).1 = .returned (.ok ()) := accepted
      rwa [ending] at answered
    exact passedOver_of_hidden info resource shape renderer d (h.trace valid) here running ready
      ((trace_keeps_requested same).trans asked)

/-- The display is hidden while a frame is on its way, and the session is shut down after its release has
returned. -/
theorem frames_are_drawn_only_when_visible_hidden_on_the_way :
    let shape : BufferShape := ⟨4, 2, 1, .rgba8888, .none, 4⟩
    let c₀ : (Machine Rehearsal × HeadlessDisplay) × Journal :=
      ((Machine.fresh ⟨1, "panel", 4, 2, 0⟩ 1 shape {}, { owner := some 1 }), {})
    let es : List (Event HeadlessDisplay) :=
      [.setState .visible .started, .acquire, .release 0 ⟨shape, 1, 1, []⟩]
    let gs : List (Event HeadlessDisplay) := [.work, .work]
    let fs : List (Event HeadlessDisplay) := [.work, .resume 0, .shutdown]
    let c := (journaled Rehearsal HeadlessDisplay).run c₀ es
    let before := (journaled Rehearsal HeadlessDisplay).run c (.setState .notVisible .started :: gs)
    let took := (journaled Rehearsal HeadlessDisplay).next before .work
    (journaled Rehearsal HeadlessDisplay).Valid c₀ es ∧
      (journaled Rehearsal HeadlessDisplay).Valid took fs ∧
      took.2.entries.head? = some (.taken (some 0) .notVisible) ∧ PassedOver took 0 fs := by
  intro shape c₀ es gs fs c before took
  have valid : (journaled Rehearsal HeadlessDisplay).Valid c₀ es := by decide
  have valid' : (journaled Rehearsal HeadlessDisplay).Valid took fs := by decide
  have entries : took.2.entries.head? = some (.taken (some 0) .notVisible) := by decide
  obtain ⟨_, _, _, hidden⟩ := frames_are_drawn_only_when_visible _ _ _ _ _ ⟨es, valid, rfl⟩
  obtain ⟨t, _, first, passed⟩ :=
    hidden .started gs ⟨⟨shape, 1, 1⟩, []⟩ rfl (by decide) (by decide) rfl (by decide) rfl
  obtain rfl : t = 0 := by
    have same := (congrArg List.head? first).symm.trans entries
    simpa using same
  exact ⟨valid, valid', entries, passed fs valid'⟩

end Machine

end DisplaySurface
