import DisplaySurface.Proofs.Machine.Lending
import DisplaySurface.Proofs.Machine.Pinning

/-!
A frame on its way. As long as the session lives there is one release to every frame, which waits for it,
and the buffer stays out for it. So no second frame is ever offered, although a release does not look who
else is waiting.
-/

namespace DisplaySurface

def Handoff.frame? : Handoff → Option Submission
  | ready frame => some frame
  | idle | rendering | done _ => none

theorem SessionError.frameInFlight_not_perFrame {e : SessionError} (h : e.isPerFrame = true) :
    e ≠ .frameInFlight := by
  rintro rfl
  cases h

namespace Machine

variable {σ δ : Type}

/-- Callers return what they were lent, and an observer remembers the frame that was handed over last. -/
def flying (σ δ : Type) [Renderer σ] [Display δ] :
    System (((Machine σ × δ) × Ledger) × Option Submission) (Event δ) :=
  (lending σ δ).observed
    (fun c e last => (c.1.1.next c.1.2 e).1.shared.handoff.frame?.or last) fun _ _ => True

instance [Renderer σ] [Display δ] (c : ((Machine σ × δ) × Ledger) × Option Submission)
    (e : Event δ) : Decidable ((flying σ δ).Enabled c e) :=
  inferInstanceAs (Decidable ((lending σ δ).Enabled c.1 e ∧ True))

/-- Unless the render thread has left, the checkout is exclusive, and who waits has the live buffer. -/
def Sole (m : Machine σ) (l : Ledger) : Prop :=
  m.phase = .gone ∨
    Exclusive m l ∧ ∀ a ∈ l.asked, a.2.fingerprint = m.shared.slot.live.fingerprint

def Aloft (m : Machine σ) (last : Option Submission) : Prop :=
  m.shared.isDead = false → m.shared.handoff ≠ .idle →
    ∃ frame, last = some frame ∧ frame.buffer = m.shared.slot.live

/-- What the render thread reports of a frame is about that frame alone, and no release was ever told
that another frame is on its way. -/
structure Candid (m : Machine σ) : Prop where
  publishing : ∀ e, m.phase = .publishing (.failed e) → e.isPerFrame = true
  done : ∀ e, m.shared.handoff = .done (.error e) → e.isPerFrame = true
  returned : ∀ r ∈ m.returned, r.2 ≠ .error .frameInFlight

theorem unfinished_of_occupied {m : Machine σ} (life : Lifetime m) (passing : Passing m)
    (occupied : m.shared.handoff ≠ .idle) : m.phase ≠ .gone := by
  intro gone
  exact occupied (passing.stopped_idle (life.gone_stopped gone))

theorem running_of_occupied {m : Machine σ} (life : Lifetime m) (passing : Passing m)
    (alive : m.shared.isDead = false) (occupied : m.shared.handoff ≠ .idle) :
    m.shared.thread = .running := by
  cases thread : m.shared.thread with
  | running => rfl
  | stopped => exact absurd (passing.stopped_idle thread) occupied
  | stopping => simp [life.stopping_dead thread] at alive

section InFlight

variable {m : Machine σ} {l : Ledger}

theorem asked_of_occupied (passing : Passing m) (noted : Noted m l) (alive : m.shared.isDead = false)
    (occupied : m.shared.handoff ≠ .idle) : ∃ a, l.asked = [a] ∧ m.waiters.length = 1 := by
  have somebody : m.waiters ≠ [] := by
    simpa [alive] using passing.occupied_claimed occupied
  have one : m.waiters.length = 1 := by
    have atMost := passing.waiting_one
    have atLeast := List.length_pos_of_ne_nil somebody
    omega
  have known : l.asked.length = m.waiters.length := by
    have same := congrArg List.length noted.asked_waiting
    simpa [waiting] using same
  obtain ⟨a, asked⟩ := List.length_eq_one_iff.mp (known.trans one)
  exact ⟨a, asked, one⟩

theorem outstanding_of_occupied (life : Lifetime m) (passing : Passing m) (noted : Noted m l)
    (sole : Sole m l) (alive : m.shared.isDead = false) (occupied : m.shared.handoff ≠ .idle) :
    m.shared.slot.busy = true ∧
      ∀ b ∈ l.lent, b.fingerprint ≠ m.shared.slot.live.fingerprint := by
  rcases sole with gone | ⟨⟨single, busy⟩, current⟩
  · exact absurd gone (unfinished_of_occupied life passing occupied)
  obtain ⟨a, asked, _⟩ := asked_of_occupied passing noted alive occupied
  have its : a.2.fingerprint = m.shared.slot.live.fingerprint := current a (by simp [asked])
  have counted : l.outstanding m.shared.slot.live =
      l.lent.countP (·.fingerprint = m.shared.slot.live.fingerprint) + 1 := by
    simp [Ledger.outstanding, asked, its]
  have nobody : l.lent.countP (·.fingerprint = m.shared.slot.live.fingerprint) = 0 := by omega
  constructor
  · exact busy.mp (by omega)
  · intro b hb
    simpa using List.countP_eq_zero.mp nobody b hb

theorem idle_of_valid (life : Lifetime m) (passing : Passing m) (noted : Noted m l) (sole : Sole m l)
    {b : Checkout} (held : b.blank ∈ l.lent) (valid : m.shared.slot.validate b = .ok ())
    (alive : m.shared.isDead = false) : m.shared.handoff = .idle := by
  by_contra occupied
  have others := (outstanding_of_occupied life passing noted sole alive occupied).2
  exact others _ held ((Slot.validate_eq_ok_iff _ _).mp valid).1

end InFlight

namespace Candid

theorem initial (info : DisplayInfo) (resource : UInt64) (shape : BufferShape) (renderer : σ) :
    Candid (Machine.fresh info resource shape renderer) := by
  constructor <;> simp [Machine.fresh, Session.new]

theorem onward {m m' : Machine σ} (h : Candid m)
    (publishing : ∀ e, m'.phase = .publishing (.failed e) →
      m.phase = .publishing (.failed e) ∨ e.isPerFrame = true)
    (done : ∀ e, m'.shared.handoff = .done (.error e) →
      m.shared.handoff = .done (.error e) ∨ e.isPerFrame = true)
    (returned : ∀ r ∈ m'.returned, r ∈ m.returned ∨ r.2 ≠ .error .frameInFlight) : Candid m' where
  publishing e here := (publishing e here).elim (h.publishing e) id
  done e here := (done e here).elim (h.done e) id
  returned r hr := (returned r hr).elim (h.returned r) id

theorem returns {m m' : Machine σ} {ticket : Nat} {outcome : Outcome}
    (own : outcome ≠ .error .frameInFlight) (returned : m'.returned = (ticket, outcome) :: m.returned) :
    ∀ r ∈ m'.returned, r ∈ m.returned ∨ r.2 ≠ .error .frameInFlight := by
  rw [returned]
  intro r hr
  rcases List.mem_cons.mp hr with rfl | hr
  · exact .inr own
  · exact .inl hr

theorem collect_ne {m : Machine σ} (h : Candid m) : m.shared.collect.1 ≠ .error .frameInFlight := by
  cases done : m.shared.handoff.isDone with
  | false => simp [Session.collect_of_not_done done, SessionError.frameInFlight]
  | true =>
    obtain ⟨outcome, handoff⟩ := Handoff.done_of_isDone done
    rw [Session.collect_of_done handoff]
    rintro rfl
    exact SessionError.frameInFlight_not_perFrame (h.done _ handoff) rfl

end Candid

structure Flown (c : ((Machine σ × δ) × Ledger) × Option Submission) : Prop where
  kept : Kept c.1
  sole : Sole c.1.1.1 c.1.2
  pinned : Pinned c.1.1.1
  aloft : Aloft c.1.1.1 c.2
  candid : Candid c.1.1.1

namespace Flown

theorem initial (info : DisplayInfo) (resource : UInt64) (shape : BufferShape) (renderer : σ) (d : δ) :
    Flown (((Machine.fresh info resource shape renderer, d), {}), none) where
  kept := kept_initial info resource shape renderer d
  sole := .inr ⟨by simp [Exclusive, Ledger.outstanding, Machine.fresh, Session.new, Slot.new],
    by simp⟩
  pinned := Pinned.initial info resource shape renderer
  aloft := by simp [Aloft, Machine.fresh, Session.new]
  candid := Candid.initial info resource shape renderer

end Flown

variable [Renderer σ] [Display δ] {m : Machine σ} {d : δ}

theorem trace_keeps_gone {c : Machine σ × δ} {es : List (Event δ)} (life : Lifetime c.1)
    (gone : c.1.phase = .gone) (valid : (system σ δ).Valid c es) :
    ((system σ δ).run c es).1.phase = .gone := by
  induction es generalizing c with
  | nil => exact gone
  | cons e es ih =>
    have move := next_move c.1 c.2 e valid.1
    exact ih (step_preserves_lifetime life move) (step_keeps_gone life gone move) valid.2

theorem step_keeps_sole {c : (Machine σ × δ) × Ledger} {e : Event δ} (kept : Kept c)
    (enabled : (lending σ δ).Enabled c e) (h : Sole c.1.1 c.2) :
    Sole ((lending σ δ).next c e).1.1 ((lending σ δ).next c e).2 := by
  have move := next_move c.1.1 c.1.2 e enabled.1
  have trade := move_trade move
  rcases h with gone | ⟨exclusive, current⟩
  · exact .inl (step_keeps_gone kept.life gone move)
  · rcases trade_keeps_current kept.life kept.passing kept.noted current trade with
      ⟨gone, _⟩ | current'
    · exact .inl (step_keeps_gone kept.life gone move)
    · have untaken := not_takesBack_of_current (e := e) current
      right
      exact ⟨(trade_exclusive_iff kept.passing kept.noted enabled.2 exclusive trade).mpr untaken,
        current'⟩

/-- A frame that was taken was on its way before, and its buffer was live then. -/
theorem step_from_flight {e : Event δ} {c : Machine σ × δ} (passing : Passing m)
    (move : Move m d e c) (alive : c.1.shared.isDead = false) (occupied : c.1.shared.handoff ≠ .idle)
    (taken : c.1.shared.handoff.frame? = none) : m.shared.isDead = false ∧
      m.shared.handoff ≠ .idle ∧ c.1.shared.slot.live = m.shared.slot.live := by
  cases move with
  | request _ _ before | start _ before => exact ⟨before, occupied, rfl⟩
  | handOver => simp [Handoff.frame?] at taken
  | reallocate _ _ idle => exact absurd idle occupied
  | shutdownRunning | shutdownHalted => simp [wakeAll, Session.isDead] at alive
  | take frame here running ready | skip frame here running ready =>
    exact ⟨alive, by simp [ready], rfl⟩
  | publish r here =>
    have rendering := passing.drawing_rendering (by simp [here, Phase.isDrawing])
    exact ⟨by simpa [wakeCallers] using alive, by simp [rendering], rfl⟩
  | leave => simp [wakeAll] at occupied
  | collect =>
    have rendering : m.shared.handoff = .rendering := by simpa using occupied
    exact ⟨by simpa using alive, by simp [rendering], by simp [Slot.checkIn]⟩
  | _ => exact ⟨alive, occupied, rfl⟩

theorem step_keeps_aloft {e : Event δ} {c : Machine σ × δ} {last : Option Submission}
    (passing : Passing m) (pinned : Pinned m) (h : Aloft m last) (move : Move m d e c) :
    Aloft c.1 (c.1.shared.handoff.frame?.or last) := by
  intro alive occupied
  cases taken : c.1.shared.handoff.frame? with
  | some frame =>
    have ready : c.1.shared.handoff = .ready frame := by
      cases handoff : c.1.shared.handoff <;> simp_all [Handoff.frame?]
    exact ⟨frame, rfl, (step_preserves_pinned passing pinned move).ready frame ready⟩
  | none =>
    obtain ⟨alive, occupied, live⟩ := step_from_flight passing move alive occupied taken
    rw [live]
    exact h alive occupied

theorem step_preserves_candid {e : Event δ} {c : Machine σ × δ} (passing : Passing m)
    (h : Candid m) (unrefused : ∀ ticket b, e = .release ticket b →
      m.shared.slot.validate b = .ok () → m.shared.isDead = false → m.shared.handoff = .idle)
    (move : Move m d e c) : Candid c.1 := by
  cases move with
  | requestRefused | request | startRefused | startCrashed | acquireRefused | acquire
  | reallocateRefused | reallocate | shutdownAgain | waitOn | join | relinquish | strayWakeCaller
  | outside => exact { h with }
  | start | begin | started | startFailed | startBroke | recordFault | park | stop | composed
  | composeBroke | presented | presentBroke | strayWakeRender =>
    exact h.onward (by simp) (fun _ => .inl) (fun _ => .inl)
  | take | skip => exact h.onward (by simp) (by simp) (fun _ => .inl)
  | composeFailed | presentFailed =>
    refine h.onward ?_ (fun _ => .inl) (fun _ => .inl)
    simp [SessionError.isPerFrame]
  | rejected ticket b err _ _ invalid =>
    refine h.onward (fun _ => .inl) (fun _ => .inl) (Candid.returns ?_ rfl)
    rcases Slot.validate_error invalid with rfl | rfl
    · simp [SessionError.frameInFlight]
    · simp [SessionError.notCheckedOut, SessionError.frameInFlight]
  | releasedIdle =>
    exact h.onward (fun _ => .inl) (fun _ => .inl) (Candid.returns (by simp [SessionError.frameInFlight]) rfl)
  | discarded => exact h.onward (fun _ => .inl) (fun _ => .inl) (Candid.returns (by simp) rfl)
  | offerRefused ticket b _ _ valid alive _ _ occupied =>
    exact absurd (unrefused ticket b rfl valid alive) occupied
  | handOver =>
    exact h.onward (fun e here => .inl (by simpa using here)) (by simp) (fun _ => .inl)
  | shutdownRunning | shutdownHalted =>
    exact h.onward (fun e here => .inl (by simpa [wakeAll] using here)) (fun _ => .inl) (fun _ => .inl)
  | publish r here =>
    have rendering := passing.drawing_rendering (by simp [here, Phase.isDrawing])
    have finished := Session.finishFrame_handoff rendering r
    refine h.onward (by simp [wakeCallers]) ?_ (fun _ => .inl)
    intro e there
    simp only [wakeCallers, finished, Handoff.done.injEq] at there
    cases r with
    | failed cause =>
      obtain rfl : cause = e := by simpa [Rendered.outcome] using there
      exact .inr (h.publishing cause here)
    | presented | discarded => cases there
  | leave =>
    exact h.onward (by simp [wakeAll, Phase.notified]) (by simp [wakeAll]) (fun _ => .inl)
  | collect =>
    refine h.onward (fun _ => .inl) ?_ (Candid.returns h.collect_ne rfl)
    intro e there
    simp only [Session.collect_handoff] at there
    cases hh : m.shared.handoff <;> simp [hh, Handoff.collect, Handoff.withdraw] at there

namespace Flown

theorem idle_of_enabled {c : ((Machine σ × δ) × Ledger) × Option Submission} (h : Flown c)
    {ticket : Nat} {b : Checkout} (enabled : (lending σ δ).Enabled c.1 (.release ticket b))
    (valid : c.1.1.1.shared.slot.validate b = .ok ()) (alive : c.1.1.1.shared.isDead = false) :
    c.1.1.1.shared.handoff = .idle :=
  idle_of_valid h.kept.life h.kept.passing h.kept.noted h.sole enabled.2 valid alive

theorem next {c : ((Machine σ × δ) × Ledger) × Option Submission} {e : Event δ} (h : Flown c)
    (enabled : (flying σ δ).Enabled c e) : Flown ((flying σ δ).next c e) := by
  have move := next_move c.1.1.1 c.1.1.2 e enabled.1.1
  refine ⟨step_preserves_kept h.kept enabled.1, step_keeps_sole h.kept enabled.1 h.sole,
    step_preserves_pinned h.kept.passing h.pinned move,
    step_keeps_aloft h.kept.passing h.pinned h.aloft move,
    step_preserves_candid h.kept.passing h.candid ?_ move⟩
  rintro ticket b rfl
  exact h.idle_of_enabled enabled.1

end Flown

/-- While a frame is on its way in a session that lives, one release waits for it, the buffer is out, the
render thread is recorded as running, and the frame has the live buffer. All that time the buffer can
neither be lent nor replaced. No release ever finds another frame on its way, and there is none once the
render thread has left. -/
theorem flight_is_single (info : DisplayInfo) (resource : UInt64) (shape : BufferShape)
    (renderer : σ) (d : δ) {c : ((Machine σ × δ) × Ledger) × Option Submission}
    (h : (flying σ δ).Reachable (((Machine.fresh info resource shape renderer, d), {}), none) c) :
    (c.1.1.1.shared.isDead = false → c.1.1.1.shared.handoff ≠ .idle →
      c.1.1.1.waiters.length = 1 ∧ c.1.1.1.shared.slot.busy = true ∧
      c.1.1.1.shared.thread = .running ∧
      (∃ frame, c.2 = some frame ∧ frame.buffer = c.1.1.1.shared.slot.live) ∧
      c.1.1.1.acquire.1 = .error .busy ∧ ∀ shape, (c.1.1.1.reallocate shape).1 = .error .busy) ∧
    (∀ ticket b, (lending σ δ).Enabled c.1 (.release ticket b) →
      c.1.1.1.shared.slot.validate b = .ok () → c.1.1.1.shared.isDead = false →
        c.1.1.1.shared.handoff = .idle) ∧
    (∀ r ∈ c.1.1.1.returned, r.2 ≠ .error .frameInFlight) ∧
    (c.1.1.1.phase = .gone → ∀ es, (system σ δ).Valid c.1.1 es →
      ((system σ δ).run c.1.1 es).1.shared.handoff = .idle) := by
  have flown : Flown c :=
    h.invariant (I := Flown) (Flown.initial info resource shape renderer d)
      fun _ _ _ holds enabled => holds.next enabled
  have life := flown.kept.life
  have passing := flown.kept.passing
  refine ⟨?_, fun ticket b enabled valid alive => flown.idle_of_enabled enabled valid alive,
    flown.candid.returned, ?_⟩
  · intro alive occupied
    obtain ⟨_, _, one⟩ := asked_of_occupied passing flown.kept.noted alive occupied
    obtain ⟨busy, _⟩ :=
      outstanding_of_occupied life passing flown.kept.noted flown.sole alive occupied
    refine ⟨one, busy, running_of_occupied life passing alive occupied,
      flown.aloft alive occupied, ?_, ?_⟩
    · simp [Machine.acquire, Session.acquire, Slot.checkOut, alive, busy]
    · intro shape
      cases handoff : c.1.1.1.shared.handoff <;>
        simp_all [Machine.reallocate, Session.reallocate, Handoff.isIdle]
  · intro gone es valid
    have there := trace_keeps_gone life gone valid
    obtain ⟨life', passing'⟩ := fresh_passing (h.of_observed.of_observed.trace valid)
    exact passing'.stopped_idle (life'.gone_stopped there)

/-- A caller's frame is being composed, and another caller can neither get nor replace the buffer. -/
theorem flight_is_single_while_composing :
    let shape : BufferShape := ⟨4, 2, 1, .rgba8888, .none, 4⟩
    let c₀ : ((Machine Rehearsal × HeadlessDisplay) × Ledger) × Option Submission :=
      (((Machine.fresh ⟨1, "panel", 4, 2, 0⟩ 1 shape {}, { owner := some 1 }), {}), none)
    let es : List (Event HeadlessDisplay) :=
      [.setState .visible .started, .acquire, .release 0 ⟨shape, 1, 1, []⟩, .work, .work, .work]
    let c := (flying Rehearsal HeadlessDisplay).run c₀ es
    (flying Rehearsal HeadlessDisplay).Valid c₀ es ∧
      c.1.1.1.shared.handoff ≠ .idle ∧ c.1.1.1.waiters.length = 1 ∧ c.1.1.1.shared.slot.busy = true ∧
      c.1.1.1.acquire.1 = .error .busy ∧ (c.1.1.1.reallocate shape).1 = .error .busy := by
  intro shape c₀ es c
  have valid : (flying Rehearsal HeadlessDisplay).Valid c₀ es := by decide
  have alive : c.1.1.1.shared.isDead = false := by decide
  have rendering : c.1.1.1.shared.handoff = .rendering := rfl
  have occupied : c.1.1.1.shared.handoff ≠ .idle := by simp [rendering]
  have reachable : (flying Rehearsal HeadlessDisplay).Reachable c₀ c := ⟨es, valid, rfl⟩
  have all := flight_is_single _ _ _ _ _ reachable
  obtain ⟨one, busy, _, _, refused, kept⟩ := all.1 alive occupied
  exact ⟨valid, occupied, one, busy, refused, kept shape⟩

end Machine

end DisplaySurface
