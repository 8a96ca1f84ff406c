import DisplaySurface.Proofs.Machine.Outcomes

/-!
The counters of a session and what its callers were told. The render thread counts a frame before its
caller has the outcome, so the counters run ahead of the callers, though never by more than one frame.
-/

namespace DisplaySurface

/-- What frames come to, as far as both the counters and the callers tell it apart. -/
inductive Account where
  | shown
  | composeFailed
  | presentFailed
  deriving DecidableEq

def accountOf? : Outcome → Option Account
  | .ok () => some .shown
  | .error (.composeFailed _) => some .composeFailed
  | .error (.presentFailed _) => some .presentFailed
  | .error _ => none

def units (outcome : Outcome) (a : Account) : Nat :=
  if accountOf? outcome = some a then 1 else 0

/-- A discarded frame has the outcome of one that was presented. -/
def Tally.on (t : Tally) : Account → Nat
  | .shown => t.presented + t.discarded
  | .composeFailed => t.composeFailures
  | .presentFailed => t.presentFailures

def Tally.frames (t : Tally) : Nat :=
  t.presented + t.discarded + t.composeFailures + t.presentFailures

theorem Tally.frames_eq (t : Tally) :
    t.frames = t.on .shown + t.on .composeFailed + t.on .presentFailed := rfl

theorem Tally.on_count (t : Tally) (r : Rendered) (a : Account) :
    (t.count r).on a = t.on a + units r.outcome a := by
  cases r with
  | presented | discarded =>
    cases a with
    | shown =>
      simp [count, on, units, accountOf?, Rendered.outcome]
      omega
    | composeFailed | presentFailed => simp [count, on, units, accountOf?, Rendered.outcome]
  | failed e => cases e <;> cases a <;> simp [count, on, units, accountOf?, Rendered.outcome]

theorem units_of_ended {es : List Entry} {t : Nat} {outcome : Outcome} (h : Ended es t outcome) :
    units outcome .shown + units outcome .composeFailed + units outcome .presentFailed = 1 := by
  cases h <;> simp [units, accountOf?]

theorem taken_of_ended {es : List Entry} {t : Nat} {outcome : Outcome} (sound : Sound es)
    (h : Ended es t outcome) : ∃ requested, .taken (some t) requested ∈ es := by
  cases h with
  | presented frame shown | presentFailed reason frame shown =>
    exact sound.taken_of_composed (sound.composed_of_shown shown)
  | discarded requested taken => exact ⟨requested, taken⟩
  | composeFailed reason composed => exact sound.taken_of_composed composed

/-- The release returned that the session was shut down, after the render thread had taken its frame. -/
def LeftBehind (es : List Entry) (t : Nat) : Prop :=
  ∃ newer older, es = newer ++ .returned t (.error .shutDown) :: older ∧
    ∃ requested, .taken (some t) requested ∈ older

theorem LeftBehind.mono {es fs : List Entry} {t : Nat} (h : LeftBehind es t) (grows : es <:+ fs) :
    LeftBehind fs t := by
  obtain ⟨newer, older, rfl, taken⟩ := h
  obtain ⟨newest, rfl⟩ := grows
  exact ⟨newest ++ newer, older, (List.append_assoc ..).symm, taken⟩

namespace Machine

variable {σ δ : Type}

def paid (m : Machine σ) (a : Account) : Nat :=
  m.returned.countP fun r => accountOf? r.2 = some a

def told (m : Machine σ) : Nat :=
  m.paid .shown + m.paid .composeFailed + m.paid .presentFailed

theorem paid_cons {m m' : Machine σ} {t : Nat} {outcome : Outcome}
    (returned : m'.returned = (t, outcome) :: m.returned) (a : Account) :
    m'.paid a = m.paid a + units outcome a := by
  simp [paid, returned, List.countP_cons, units]

/-- Some frame is counted whose release has not told of it. -/
def Ahead (m : Machine σ) : Prop :=
  m.told < m.shared.tally.frames

instance (m : Machine σ) : Decidable m.Ahead :=
  inferInstanceAs (Decidable (m.told < m.shared.tally.frames))

/-- What the counters are ahead by: the outcome of one frame, with the ticket of its release. -/
def owed : Option (Nat × Outcome) → Account → Nat
  | none, _ => 0
  | some (_, outcome), a => units outcome a

/-- A debt stays until it is paid, and only then may there be another. -/
def GoesOn (debt debt' : Option (Nat × Outcome)) : Prop :=
  debt' = debt ∨ debt = none ∨ debt' = none

theorem Booked.taken_of_drawing {m : Machine σ} {j : Journal} (h : Booked m j)
    (drawing : m.phase.isDrawing = true) {t : Nat} (owner : j.offered = some t) :
    ∃ requested, .taken (some t) requested ∈ j.entries := by
  have inHand := (h.drawing drawing).trans owner
  cases here : m.phase with
  | composing frame => exact inHand ▸ h.sound.taken_of_drawn (h.composing frame here).1
  | presenting frame =>
    obtain ⟨_, drawn⟩ := (h.presenting frame here).1
    exact inHand ▸ h.sound.taken_of_drawn drawn
  | publishing r =>
    obtain ⟨t', owner', ended⟩ := h.publishing r here
    obtain rfl : t' = t := Option.some.inj (owner'.symm.trans inHand)
    exact taken_of_ended h.sound ended
  | _ => simp [here, Phase.isDrawing] at drawing

/-- How the counters stand to what callers were told. -/
structure Balanced (m : Machine σ) (j : Journal) (debt : Option (Nat × Outcome)) : Prop where
  even : ∀ a, m.shared.tally.on a = m.paid a + owed debt a
  whose : ∀ t outcome, debt = some (t, outcome) →
    Ended j.entries t outcome ∧ (t ∈ m.waiting ∨ LeftBehind j.entries t)
  done : ∀ outcome, m.shared.handoff = .done outcome →
    ∃ t, debt = some (t, outcome) ∧ j.offered = some t
  undone : m.shared.handoff.isDone = false →
    m.shared.isDead = false ∨ m.shared.handoff ≠ .idle → debt = none
  claimed : m.phase.isDrawing = true →
    ∀ t, j.offered = some t → t ∈ m.waiting ∨ LeftBehind j.entries t
  resting : m.shared.handoff.isDone = true → m.shared.isDead = false →
    m.phase = .seeking ∨ m.phase = .parked

namespace Balanced

theorem initial (info : DisplayInfo) (resource : UInt64) (shape : BufferShape) (renderer : σ) :
    Balanced (Machine.fresh info resource shape renderer) {} none := by
  constructor
  · intro a
    cases a <;> rfl
  all_goals simp [Machine.fresh, Session.new, Phase.isDrawing, Handoff.isDone]

variable {m m' : Machine σ} {j j' : Journal} {debt : Option (Nat × Outcome)}

theorem onward (h : Balanced m j debt) (grows : j.entries <:+ j'.entries)
    (offered : j'.offered = j.offered)
    (even : ∀ a, m'.shared.tally.on a + m.paid a = m.shared.tally.on a + m'.paid a)
    (waiting : ∀ t ∈ m.waiting, t ∈ m'.waiting) (handoff : m'.shared.handoff = m.shared.handoff)
    (dead : m.shared.isDead = true → m'.shared.isDead = true)
    (drawing : m'.phase.isDrawing = true → m.phase.isDrawing = true)
    (rests : m.shared.handoff.isDone = true → m'.shared.isDead = false →
      m.phase = .seeking ∨ m.phase = .parked → m'.phase = .seeking ∨ m'.phase = .parked) :
    Balanced m' j' debt := by
  have alive (now : m'.shared.isDead = false) : m.shared.isDead = false := by
    cases before : m.shared.isDead with
    | false => rfl
    | true => simp [dead before] at now
  constructor
  · intro a
    have before := h.even a
    have step := even a
    omega
  · intro t outcome owes
    obtain ⟨ended, claim⟩ := h.whose t outcome owes
    exact ⟨ended.mono fun e => (grows.subset ·), claim.imp (waiting t) (·.mono grows)⟩
  · rw [handoff, offered]
    exact h.done
  · rw [handoff]
    intro undone other
    exact h.undone undone (other.imp alive id)
  · rw [offered]
    intro here t owner
    exact (h.claimed (drawing here) t owner).imp (waiting t) (·.mono grows)
  · rw [handoff]
    intro done now
    exact rests done now (h.resting done (alive now))

theorem returned_at_once (h : Balanced m j debt) {t : Nat} {outcome : Outcome}
    (tally : ∀ a, m'.shared.tally.on a = m.shared.tally.on a + units outcome a)
    (returned : m'.returned = (t, outcome) :: m.returned) (waiting : m'.waiting = m.waiting)
    (handoff : m'.shared.handoff = m.shared.handoff) (dead : m'.shared.isDead = m.shared.isDead)
    (phase : m'.phase = m.phase) : Balanced m' (j.write (.returned t outcome)) debt := by
  refine h.onward (Journal.suffix_write _ j) rfl ?_ ?_ handoff ?_ ?_ ?_
  · intro a
    rw [paid_cons returned a, tally a]
    omega
  · intro t waits
    exact waiting ▸ waits
  · exact fun now => dead ▸ now
  · exact fun here => phase ▸ here
  · exact fun _ _ rest => phase ▸ rest

theorem take (h : Balanced m j debt) (passing : Passing m) (booked : Booked m j) {frame : Submission}
    (alive : m.shared.isDead = false) (ready : m.shared.handoff = .ready frame)
    (offered : j'.offered = j.offered)
    (shared : m'.shared = { m.shared with handoff := .rendering })
    (waiting : m'.waiting = m.waiting) (returned : m'.returned = m.returned) :
    Balanced m' j' debt := by
  have settled := h.undone (by simp [ready, Handoff.isDone]) (.inr (by simp [ready]))
  constructor
  · intro a
    have same : m'.paid a = m.paid a := by simp [paid, returned]
    rw [shared, same]
    exact h.even a
  · simp [settled]
  · simp [shared]
  · intro _ _
    exact settled
  · intro _ t owner
    left
    rw [waiting]
    exact booked.owner_waits passing alive (by simp [ready]) (offered.symm.trans owner)
  · simp [shared, Handoff.isDone]

theorem publish (h : Balanced m j debt) (passing : Passing m) (booked : Booked m j) {r : Rendered}
    (here : m.phase = .publishing r) (tally : m'.shared.tally = m.shared.tally.count r)
    (handoff : m'.shared.handoff = .done r.outcome) (waiting : m'.waiting = m.waiting)
    (returned : m'.returned = m.returned) (phase : m'.phase = .seeking) :
    ∃ debt', Balanced m' { j with offered := j.inHand, inHand := none } debt' ∧ GoesOn debt debt' := by
  have drawing : m.phase.isDrawing = true := by simp [here, Phase.isDrawing]
  have rendering := passing.drawing_rendering drawing
  have settled := h.undone (by simp [rendering, Handoff.isDone]) (.inr (by simp [rendering]))
  obtain ⟨t, owner, ended⟩ := booked.publishing r here
  have claim := h.claimed drawing t ((booked.drawing drawing).symm.trans owner)
  refine ⟨some (t, r.outcome), ⟨?_, ?_, ?_, ?_, ?_, ?_⟩, .inr (.inl settled)⟩
  · intro a
    have same : m'.paid a = m.paid a := by simp [paid, returned]
    have before := h.even a
    rw [settled] at before
    rw [tally, Tally.on_count, same, before]
    rfl
  · rintro _ _ ⟨⟩
    rw [waiting]
    exact ⟨ended, claim⟩
  · intro outcome done
    obtain rfl : r.outcome = outcome := by simpa [handoff] using done
    exact ⟨t, rfl, owner⟩
  · simp [handoff, Handoff.isDone]
  · simp [phase, Phase.isDrawing]
  · intro _ _
    exact .inl phase

/-- The render thread has left. Who was owed an outcome is not going to find it. -/
theorem leave (h : Balanced m j debt) (grows : j.entries <:+ j'.entries) {crashed : Bool}
    (here : m.phase = .leaving crashed) (shared : m'.shared = m.shared.exit crashed)
    (waiting : m'.waiting = m.waiting) (returned : m'.returned = m.returned)
    (undrawn : m'.phase.isDrawing = false) : Balanced m' j' debt := by
  have handoff : m'.shared.handoff = .idle := by rw [shared, Session.exit_handoff]
  have tally : m'.shared.tally = m.shared.tally := by rw [shared, Session.exit_eq]
  have dead : m'.shared.isDead = m.shared.isDead := by rw [shared, Session.exit_isDead]
  constructor
  · intro a
    have same : m'.paid a = m.paid a := by simp [paid, returned]
    rw [tally, same]
    exact h.even a
  · intro t outcome owes
    obtain ⟨ended, claim⟩ := h.whose t outcome owes
    rw [waiting]
    exact ⟨ended.mono fun e => (grows.subset ·), claim.imp id (·.mono grows)⟩
  · simp [handoff]
  · intro _ other
    have alive : m.shared.isDead = false := dead ▸ other.resolve_right (by simp [handoff])
    refine h.undone ?_ (.inl alive)
    cases done : m.shared.handoff.isDone with
    | false => rfl
    | true => simpa [here] using h.resting done alive
  · simp [undrawn]
  · simp [handoff, Handoff.isDone]

theorem le (h : Balanced m j debt) (a : Account) : m.paid a ≤ m.shared.tally.on a := by
  rw [h.even a]
  exact Nat.le_add_right _ _

theorem settled (h : Balanced m j none) : m.shared.tally.frames = m.told := by
  simp [Tally.frames_eq, told, h.even, owed]

theorem ahead {t : Nat} {outcome : Outcome} (h : Balanced m j (some (t, outcome))) :
    m.shared.tally.frames = m.told + 1 := by
  have one := units_of_ended (h.whose t outcome rfl).1
  simp only [Tally.frames_eq, told, h.even, owed]
  omega

theorem settled_of_quiet (h : Balanced m j debt) (passing : Passing m)
    (alive : m.shared.isDead = false) (quiet : m.waiters = []) : debt = none := by
  refine h.undone ?_ (.inl alive)
  cases done : m.shared.handoff.isDone with
  | false => rfl
  | true =>
    have occupied : m.shared.handoff ≠ .idle := by
      rintro idle
      simp [idle, Handoff.isDone] at done
    have claimed := passing.occupied_claimed occupied
    simp [quiet, alive] at claimed

theorem nothing_left (h : Balanced m j debt) (owes : debt ≠ none) : m.shared.mustWait = false := by
  cases done : m.shared.handoff.isDone with
  | true => exact (Session.mustWait_eq_false_iff _).mpr (.inl done)
  | false =>
    cases dead : m.shared.isDead with
    | true => exact (Session.mustWait_eq_false_iff _).mpr (.inr (.inl dead))
    | false => exact absurd (h.undone done (.inl dead)) owes

section Collecting

variable {ticket : Nat} (shared : m'.shared = m.shared.collect.2)
  (returned : m'.returned = (ticket, m.shared.collect.1) :: m.returned) (phase : m'.phase = m.phase)

include shared

theorem tally_collect : m'.shared.tally = m.shared.tally := by
  rw [shared, Session.collect_snd]
  rfl

theorem not_done_collect : m'.shared.handoff.isDone = false := by
  rw [shared, Session.collect_handoff]
  cases m.shared.handoff <;> rfl

include returned phase

theorem settle (h : Balanced m j debt) (passing : Passing m) {outcome : Outcome}
    (done : m.shared.handoff = .done outcome) :
    Balanced m' (j.write (.returned ticket m.shared.collect.1)) none := by
  have notDone := not_done_collect shared
  obtain ⟨t, owes, _⟩ := h.done outcome done
  have undrawn : m.phase.isDrawing = false := by
    cases drawing : m.phase.isDrawing with
    | false => rfl
    | true => simp [passing.drawing_rendering drawing] at done
  constructor
  · intro a
    have before := h.even a
    rw [owes] at before
    rw [tally_collect shared, paid_cons returned a, Session.collect_of_done done]
    exact before
  · simp
  · intro o done'
    simp [done', Handoff.isDone] at notDone
  · simp
  · simp [phase, undrawn]
  · simp [notDone]

/-- A release gives up. The frame that the render thread had taken is left behind, be it counted yet
or not. -/
theorem giveUp (h : Balanced m j debt) (booked : Booked m j)
    (unfinished : m.shared.handoff.isDone = false)
    (waiting : ∀ t ∈ m.waiting, t = ticket ∨ t ∈ m'.waiting) :
    Balanced m' (j.write (.returned ticket m.shared.collect.1)) debt := by
  have grows := Journal.suffix_write (.returned ticket m.shared.collect.1) j
  have notDone := not_done_collect shared
  have gaveUp := Session.collect_of_not_done unfinished
  have keeps {t : Nat} (claim : t ∈ m.waiting ∨ LeftBehind j.entries t)
      (taken : ∃ requested, .taken (some t) requested ∈ j.entries) :
      t ∈ m'.waiting ∨ LeftBehind (j.write (.returned ticket m.shared.collect.1)).entries t := by
    rcases claim with waits | behind
    · rcases waiting t waits with rfl | waits
      · exact .inr ⟨[], j.entries, by rw [gaveUp]; rfl, taken⟩
      · exact .inl waits
    · exact .inr (behind.mono grows)
  constructor
  · intro a
    rw [tally_collect shared, paid_cons returned a, gaveUp]
    exact h.even a
  · intro t outcome owes
    obtain ⟨ended, claim⟩ := h.whose t outcome owes
    exact ⟨ended.mono fun e => (grows.subset ·), keeps claim (taken_of_ended booked.sound ended)⟩
  · intro o done
    simp [done, Handoff.isDone] at notDone
  · intro _ other
    refine h.undone unfinished (other.imp (fun alive => ?_) fun occupied => ?_)
    · simpa [shared] using alive
    · have rendering : m.shared.handoff = .rendering := by simpa [shared] using occupied
      simp [rendering]
  · intro drawing t owner
    rw [phase] at drawing
    exact keeps (h.claimed drawing t owner) (booked.taken_of_drawing drawing owner)
  · simp [notDone]

end Collecting

end Balanced

variable [Renderer σ] [Display δ] {m : Machine σ} {d : δ} {j : Journal}
  {debt : Option (Nat × Outcome)}

theorem step_preserves_balanced {e : Event δ} {c : Machine σ × δ} (life : Lifetime m)
    (passing : Passing m) (booked : Booked m j) (h : Balanced m j debt) (move : Move m d e c) :
    ∃ debt', Balanced c.1 (j.noted m d e) debt' ∧ GoesOn debt debt' := by
  have grows := Journal.suffix_noted m d e j
  -- The lock is left as it was found, as far as the counters and the callers go.
  have onward {m' : Machine σ} (offered : (j.noted m d e).offered = j.offered)
      (tally : m'.shared.tally = m.shared.tally) (returned : m'.returned = m.returned)
      (waiting : m'.waiting = m.waiting) (handoff : m'.shared.handoff = m.shared.handoff)
      (dead : m.shared.isDead = true → m'.shared.isDead = true)
      (drawing : m'.phase.isDrawing = true → m.phase.isDrawing = true)
      (rests : m.shared.handoff.isDone = true → m'.shared.isDead = false →
        m.phase = .seeking ∨ m.phase = .parked → m'.phase = .seeking ∨ m'.phase = .parked) :
      ∃ debt', Balanced m' (j.noted m d e) debt' ∧ GoesOn debt debt' := by
    refine ⟨debt, h.onward grows offered ?_ ?_ handoff dead drawing rests, .inl rfl⟩
    · intro a
      simp [tally, paid, returned]
    · intro t waits
      exact waiting ▸ waits
  cases move with
  | requestRefused | acquireRefused | acquire | reallocateRefused | reallocate | join | relinquish
  | outside => exact onward rfl rfl rfl rfl rfl id id fun _ _ => id
  | shutdownAgain dead =>
    exact onward (by rw [Journal.noted_of_dead dead]) rfl rfl rfl rfl id id fun _ _ => id
  | request wanted spawn alive legal keeps =>
    exact onward rfl rfl rfl rfl rfl (by simp [alive]) id fun _ _ => id
  | start _ alive _ stopped _ present | startRefused _ _ alive _ stopped _ present
  | startCrashed _ _ alive _ stopped _ present =>
    have idle := passing.stopped_idle stopped
    have absent := life.renderer_absent present
    exact onward rfl rfl rfl rfl rfl (by simp [alive]) (by simp [absent, Phase.isDrawing])
      (by simp [idle, Handoff.isDone])
  | rejected ticket b err unused unreturned invalid =>
    rw [Journal.noted_of_invalid invalid]
    refine ⟨debt, h.returned_at_once ?_ rfl rfl rfl rfl rfl, .inl rfl⟩
    intro a
    rcases Slot.validate_error invalid with rfl | rfl <;> rfl
  | releasedIdle ticket b unused unreturned valid off =>
    rw [Journal.noted_of_off valid off]
    exact ⟨debt, h.returned_at_once (fun _ => rfl) rfl rfl rfl rfl rfl, .inl rfl⟩
  | offerRefused ticket b unused unreturned valid alive visible running occupied =>
    rw [Journal.noted_of_occupied valid alive visible running occupied]
    exact ⟨debt, h.returned_at_once (fun _ => rfl) rfl rfl rfl rfl rfl, .inl rfl⟩
  | discarded ticket b unused unreturned valid alive hidden =>
    rw [Journal.noted_of_hidden valid alive hidden]
    exact ⟨debt, h.returned_at_once (m.shared.tally.on_count .discarded) rfl rfl rfl rfl rfl, .inl rfl⟩
  | handOver ticket b unused unreturned valid alive running visible idle =>
    rw [Journal.noted_of_idle valid alive visible running idle]
    have settled := h.undone (by simp [idle, Handoff.isDone]) (.inl alive)
    have undrawn := passing.undrawn_of_idle idle
    refine ⟨none, ⟨?_, ?_, ?_, ?_, ?_, ?_⟩, .inr (.inr rfl)⟩
    · intro a
      exact settled ▸ h.even a
    all_goals simp [undrawn, Handoff.isDone]
  | shutdownRunning alive | shutdownHalted alive =>
    refine onward (by rw [Journal.noted_of_alive alive]; rfl) rfl rfl (waiting_wakeAll _) rfl ?_ ?_ ?_
    · exact fun _ => rfl
    · simp [wakeAll]
    · simp [wakeAll, Session.isDead]
  | begin here | started _ _ here | startFailed _ _ _ here | startBroke _ _ here
  | recordFault _ here =>
    have noted : j.noted m d .work = j := by simp [Journal.noted, here]
    exact onward (by rw [noted]) rfl rfl rfl rfl id (by simp [Phase.isDrawing]) (by simp [here])
  | composed _ _ here reply | composeFailed _ _ _ here reply | composeBroke _ _ here reply =>
    refine onward (by rw [Journal.noted_of_composing here reply]; rfl) rfl rfl rfl rfl id ?_ ?_
    · simp [here, Phase.isDrawing]
    · simp [here]
  | presented _ _ here reply | presentFailed _ _ _ here reply | presentBroke _ _ here reply =>
    refine onward (by rw [Journal.noted_of_presenting here reply]; rfl) rfl rfl rfl rfl id ?_ ?_
    · simp [here, Phase.isDrawing]
    · simp [here]
  | park here running none =>
    exact onward (by rw [Journal.noted_of_empty here running none]) rfl rfl rfl rfl id
      (by simp [Phase.isDrawing]) fun _ _ _ => .inr rfl
  | stop here halted =>
    refine onward (by rw [Journal.noted_of_halted here halted]) rfl rfl rfl rfl id
      (by simp [Phase.isDrawing]) ?_
    intro _ alive _
    have stopped := life.stopped_of_halted alive halted
    exact absurd stopped (life.not_stopped (by simp [here, Phase.isOver]))
  | take frame here running ready visible =>
    rw [Journal.noted_of_visible here running ready visible]
    exact ⟨debt, h.take passing booked (life.running_alive running) ready rfl rfl rfl rfl, .inl rfl⟩
  | skip frame here running ready hidden =>
    rw [Journal.noted_of_skip here running ready hidden]
    exact ⟨debt, h.take passing booked (life.running_alive running) ready rfl rfl rfl rfl, .inl rfl⟩
  | publish r here =>
    have rendering := passing.drawing_rendering (by simp [here, Phase.isDrawing])
    rw [Journal.noted_of_publishing here rendering]
    exact h.publish passing booked here rfl (Session.finishFrame_handoff rendering r)
      (waiting_wakeCallers _) rfl rfl
  | leave crashed here =>
    exact ⟨debt, h.leave grows here rfl (waiting_wakeAll _) rfl rfl, .inl rfl⟩
  | waitOn ticket woken must clean =>
    exact onward (by rw [Journal.noted_of_wait must clean]) rfl rfl (waiting_mark m ticket true) rfl id
      id fun _ _ => id
  | collect ticket woken settled =>
    rw [Journal.noted_of_settled settled]
    have rest : ∀ t ∈ m.waiting,
        t = ticket ∨ t ∈ (m.waiters.filter fun w => w.ticket ≠ ticket).map (·.ticket) := by
      intro t waits
      by_cases own : t = ticket
      · exact .inl own
      · exact .inr (mem_waiting_without.mpr ⟨waits, own⟩)
    cases finished : m.shared.handoff.isDone with
    | true =>
      obtain ⟨outcome, done⟩ := Handoff.done_of_isDone finished
      exact ⟨none, Balanced.settle rfl rfl rfl h passing done, .inr (.inr rfl)⟩
    | false => exact ⟨debt, Balanced.giveUp rfl rfl rfl h booked finished rest, .inl rfl⟩
  | strayWakeRender here =>
    exact onward rfl rfl rfl rfl rfl id (by simp [Phase.isDrawing]) fun _ _ _ => .inl rfl
  | strayWakeCaller ticket =>
    exact onward rfl rfl rfl (waiting_mark m ticket false) rfl id id fun _ _ => id

/-- As long as the counters stay ahead it is one and the same frame, and the next that its release does
is to give up. -/
theorem step_keeps_debt {e : Event δ} {c : Machine σ × δ} {t : Nat} {outcome : Outcome}
    (life : Lifetime m) (passing : Passing m) (booked : Booked m j)
    (h : Balanced m j (some (t, outcome))) (ahead : c.1.Ahead) (move : Move m d e c) :
    Balanced c.1 (j.noted m d e) (some (t, outcome)) ∧
      (e = .resume t → LeftBehind (j.noted m d e).entries t) := by
  have nothing := h.nothing_left (by simp)
  obtain ⟨debt, balanced, kept⟩ := step_preserves_balanced life passing booked h move
  have owes : debt ≠ none := by
    rintro rfl
    exact absurd balanced.settled (Nat.ne_of_gt ahead)
  obtain rfl : debt = some (t, outcome) := by simpa [GoesOn, owes] using kept
  refine ⟨balanced, ?_⟩
  rintro rfl
  refine (balanced.whose t outcome rfl).2.resolve_left ?_
  cases move with
  | waitOn _ _ must => simp [nothing] at must
  | collect =>
    simp [waiting]

theorem trace_keeps_debt {c₀ c : (Machine σ × δ) × Journal} {es : List (Event δ)} {t : Nat}
    {outcome : Outcome} (followed : ∀ c, (journaled σ δ).Reachable c₀ c → Followed c)
    (here : (journaled σ δ).Reachable c₀ c) (h : Balanced c.1.1 c.2 (some (t, outcome)))
    (valid : (journaled σ δ).Valid c es)
    (ahead : (journaled σ δ).Throughout (fun c => c.1.1.Ahead) c es) :
    Balanced ((journaled σ δ).run c es).1.1 ((journaled σ δ).run c es).2 (some (t, outcome)) ∧
      (.resume t ∈ es → LeftBehind ((journaled σ δ).run c es).2.entries t) := by
  induction es generalizing c with
  | nil => exact ⟨h, by simp⟩
  | cons e es ih =>
    have known := followed c here
    have next : ((journaled σ δ).next c e).1.1.Ahead := by
      cases es with
      | nil => exact ahead.2
      | cons => exact ahead.2.1
    obtain ⟨balanced, resumed⟩ := step_keeps_debt known.life known.passing known.booked h next
      (next_move c.1.1 c.1.2 e valid.1.1)
    obtain ⟨balanced', resumed'⟩ := ih (here.tail valid.1) balanced valid.2 ahead.2
    refine ⟨balanced', fun mem => ?_⟩
    rcases List.mem_cons.mp mem with first | later
    · exact (resumed first.symm).mono (suffix_run ((journaled σ δ).next c e) es)
    · exact resumed' later

theorem reachable_balanced (info : DisplayInfo) (resource : UInt64) (shape : BufferShape)
    (renderer : σ) (d : δ) {c : (Machine σ × δ) × Journal}
    (h : (journaled σ δ).Reachable ((Machine.fresh info resource shape renderer, d), {}) c) :
    ∃ debt, Balanced c.1.1 c.2 debt := by
  refine h.invariant (I := fun c => ∃ debt, Balanced c.1.1 c.2 debt)
    ⟨none, Balanced.initial info resource shape renderer⟩ ?_
  intro c e here ⟨debt, balanced⟩ enabled
  have followed := reachable_followed info resource shape renderer d here
  obtain ⟨debt', balanced', _⟩ := step_preserves_balanced followed.life followed.passing
    followed.booked balanced (next_move c.1.1 c.1.2 e enabled.1)
  exact ⟨debt', balanced'⟩

/-- On each account no more was told than was counted, and over all accounts the counters are ahead by
one frame at most, and by none while a session that is not dead has nobody waiting. As long as they stay
ahead it is by one and the same frame. Its release has returned that the session was shut down, after the
frame had been taken, or it has nothing left to wait for and has not looked since. -/
theorem frames_are_accounted (info : DisplayInfo) (resource : UInt64) (shape : BufferShape)
    (renderer : σ) (d : δ) {c : (Machine σ × δ) × Journal}
    (h : (journaled σ δ).Reachable ((Machine.fresh info resource shape renderer, d), {}) c) :
    (∀ a, c.1.1.paid a ≤ c.1.1.shared.tally.on a) ∧
    (c.1.1.shared.tally.frames = c.1.1.told ∨ c.1.1.shared.tally.frames = c.1.1.told + 1) ∧
    (c.1.1.shared.isDead = false → c.1.1.waiters = [] → c.1.1.shared.tally.frames = c.1.1.told) ∧
    (∀ es, (journaled σ δ).Valid c es →
      (journaled σ δ).Throughout (fun c => c.1.1.Ahead) c es →
      ∃ t outcome, Ended c.2.entries t outcome ∧
        (∀ a, ((journaled σ δ).run c es).1.1.shared.tally.on a =
          ((journaled σ δ).run c es).1.1.paid a + units outcome a) ∧
        (LeftBehind ((journaled σ δ).run c es).2.entries t ∨
          t ∈ ((journaled σ δ).run c es).1.1.waiting ∧
            ((journaled σ δ).run c es).1.1.shared.mustWait = false ∧ .resume t ∉ es)) := by
  have known := fun c => reachable_followed (c := c) info resource shape renderer d
  obtain ⟨debt, balanced⟩ := reachable_balanced info resource shape renderer d h
  refine ⟨balanced.le, ?_, ?_, ?_⟩
  · rcases debt with _ | ⟨t, outcome⟩
    · exact .inl balanced.settled
    · exact .inr balanced.ahead
  · intro alive quiet
    have settled := balanced.settled_of_quiet (known c h).passing alive quiet
    exact (settled ▸ balanced).settled
  · intro es valid ahead
    have now : c.1.1.Ahead := by
      cases es with
      | nil => exact ahead
      | cons => exact ahead.1
    rcases debt with _ | ⟨t, outcome⟩
    · exact absurd balanced.settled (Nat.ne_of_gt now)
    · obtain ⟨later, resumed⟩ := trace_keeps_debt known h balanced valid ahead
      refine ⟨t, outcome, (balanced.whose t outcome rfl).1, later.even, ?_⟩
      by_cases looked : .resume t ∈ es
      · exact .inl (resumed looked)
      · rcases (later.whose t outcome rfl).2 with waits | behind
        · exact .inr ⟨waits, later.nothing_left (by simp), looked⟩
        · exact .inl behind

/-- A release gives up on a shutdown while its frame is being drawn, and the frame is presented after
that. -/
theorem frames_are_accounted_late_frame :
    let shape : BufferShape := ⟨4, 2, 1, .rgba8888, .none, 4⟩
    let c₀ : (Machine Rehearsal × HeadlessDisplay) × Journal :=
      ((Machine.fresh ⟨1, "panel", 4, 2, 0⟩ 1 shape {}, { owner := some 1 }), {})
    let es : List (Event HeadlessDisplay) :=
      [.setState .visible .started, .work, .work, .acquire, .release 0 ⟨shape, 1, 1, []⟩, .work,
        .shutdown, .resume 0, .work, .work, .work]
    let rest : List (Event HeadlessDisplay) := [.work, .work, .join, .relinquish]
    let c := (journaled Rehearsal HeadlessDisplay).run c₀ es
    (journaled Rehearsal HeadlessDisplay).Valid c₀ es ∧
      (journaled Rehearsal HeadlessDisplay).Valid c rest ∧
      (journaled Rehearsal HeadlessDisplay).Throughout (fun c => c.1.1.Ahead) c rest ∧
      c.1.1.shared.tally.presented = 1 ∧ c.1.1.returned = [(0, .error .shutDown)] ∧
      ∃ t outcome, Ended c.2.entries t outcome ∧
        LeftBehind ((journaled Rehearsal HeadlessDisplay).run c rest).2.entries t := by
  intro shape c₀ es rest c
  have valid : (journaled Rehearsal HeadlessDisplay).Valid c₀ es := by decide
  have valid' : (journaled Rehearsal HeadlessDisplay).Valid c rest := by decide
  have ahead : (journaled Rehearsal HeadlessDisplay).Throughout (fun c => c.1.1.Ahead) c rest := by
    decide
  have quiet : ((journaled Rehearsal HeadlessDisplay).run c rest).1.1.waiting = [] := by decide
  obtain ⟨t, outcome, ended, _, claim⟩ :=
    (frames_are_accounted _ _ _ _ _ ⟨es, valid, rfl⟩).2.2.2 rest valid' ahead
  rcases claim with behind | ⟨waits, _⟩
  · exact ⟨valid, valid', ahead, by decide, by decide, t, outcome, ended, behind⟩
  · have waits : t ∈ ((journaled Rehearsal HeadlessDisplay).run c rest).1.1.waiting := waits
    rw [quiet] at waits
    cases waits

end Machine

end DisplaySurface
