import DisplaySurface.Proofs.Machine.Career
import DisplaySurface.Proofs.Machine.Outcomes

/-!
What a display is asked to be. Callers ask, a shutdown asks for the last time, and the render thread
makes a display visible that was to become so with its next frame. The thread decides this when it
counts the frame, whatever callers have asked for since the frame was taken.
-/

namespace DisplaySurface

def Event.isShutdown {δ : Type} : Event δ → Bool
  | .shutdown => true
  | _ => false

namespace Visibility

theorem promoted_ne (v : Visibility) : v.promoted ≠ visibleOnNextFrame := by
  cases v <;> simp [promoted]

theorem promoted_eq_or (v : Visibility) :
    v.promoted = v ∨ v = visibleOnNextFrame ∧ v.promoted = visible := by
  cases v <;> simp [promoted]

theorem promoted_of_off {v : Visibility} (off : v = notVisible ∨ v = dead) : v.promoted = v := by
  rcases off with rfl | rfl <;> rfl

end Visibility

namespace Session

theorem isDead_iff (s : Session) : s.isDead = true ↔ s.requested = .dead :=
  decide_eq_true_iff

theorem alive_of_accepted {wanted : Visibility} {spawn : Spawn} {s : Session}
    (accepted : (s.setState wanted spawn).1 = .returned (.ok ())) : wanted ≠ .dead ∧ s.isDead = false := by
  unfold setState at accepted
  by_cases legal : wanted = .dead
  · simp [legal] at accepted
  · cases dead : s.isDead with
    | true => simp [legal, dead] at accepted
    | false => exact ⟨legal, rfl⟩

def answered (wanted : Visibility) (ending : Ending) (s : Session) : Visibility :=
  match ending with
  | .returned (.ok ()) => wanted
  | .returned (.error _) | .crashed _ => s.requested

theorem setState_requested (wanted : Visibility) (spawn : Spawn) (s : Session) :
    (s.setState wanted spawn).2.requested = s.answered wanted (s.setState wanted spawn).1 := by
  by_cases legal : wanted = .dead
  · simp [setState, legal, answered]
  cases dead : s.isDead with
  | true => simp [setState, legal, dead, answered]
  | false =>
    cases starts : s.starts wanted with
    | false => simp [setState, legal, dead, starts, answered]
    | true =>
      have stopped := ((starts_iff wanted s).mp starts).2.1
      cases present : s.hasRenderer <;> cases spawn <;>
        simp [setState, startThread, Lifecycle.transition, Lifecycle.after?, legal, dead, starts,
          stopped, present, Session.apply, answered]

theorem finishFrame_requested (r : Rendered) (s : Session) : (s.finishFrame r).requested =
    if r = .presented then s.requested.promoted else s.requested := rfl

end Session

namespace Machine

variable {σ δ : Type}

/-- What the session is requested to be after an event. -/
def wish (m : Machine σ) : Event δ → Visibility
  | .setState wanted spawn => m.shared.answered wanted (m.setState wanted spawn).1
  | .shutdown => .dead
  | .work =>
    if m.phase = .publishing .presented then m.shared.requested.promoted else m.shared.requested
  | _ => m.shared.requested

variable [Renderer σ] [Display δ] {m : Machine σ} {d : δ}

theorem move_requested {e : Event δ} {c : Machine σ × δ} (move : Move m d e c)
    (other : ∀ wanted spawn, e ≠ .setState wanted spawn) : c.1.shared.requested = m.wish e := by
  cases move with
  | requestRefused wanted spawn | request wanted spawn | start wanted | startRefused wanted
  | startCrashed wanted => exact absurd rfl (other wanted _)
  | shutdownAgain dead => exact of_decide_eq_true dead
  | begin here | started _ _ here | startFailed _ _ _ here | startBroke _ _ here | recordFault _ here
  | park here | stop here | take _ here | skip _ here | composed _ _ here | composeFailed _ _ _ here
  | composeBroke _ _ here | presented _ _ here | presentFailed _ _ _ here | presentBroke _ _ here =>
    simp [wish, here, Session.recordFault]
  | publish r here => simp [wish, here, wakeCallers, Session.finishFrame_requested]
  | leave crashed here => simp [wish, here, wakeAll]
  | collect => simp [wish]
  | _ => rfl

theorem step_requested {e : Event δ} (enabled : m.Enabled e) :
    (m.next d e).1.shared.requested = m.wish e := by
  have move := next_move m d e enabled
  cases e with
  | setState wanted spawn => exact Session.setState_requested wanted spawn m.shared
  | _ => exact move_requested move (by simp)

theorem move_tally {e : Event δ} {c : Machine σ × δ} (move : Move m d e c) :
    c.1.shared.tally = m.shared.tally ∨
      (∃ r, e = .work ∧ m.phase = .publishing r ∧ c.1.shared.tally = m.shared.tally.count r) ∨
      ∃ ticket b, e = .release ticket b ∧ c.1.shared.tally = m.shared.tally.count .discarded := by
  cases move with
  | publish r here => exact .inr (.inl ⟨r, rfl, here, rfl⟩)
  | discarded ticket b => exact .inr (.inr ⟨ticket, b, rfl, rfl⟩)
  | leave => exact .inl (by simp [wakeAll, Session.exit_eq])
  | collect => exact .inl (by simp [Session.collect_snd, Session.checkIn])
  | _ => exact .inl rfl

theorem step_isDead {e : Event δ} (enabled : m.Enabled e) :
    (m.next d e).1.shared.isDead = true ↔ m.shared.isDead = true ∨ e.isShutdown = true := by
  rw [Session.isDead_iff, Session.isDead_iff, step_requested enabled]
  cases e with
  | setState wanted spawn =>
    cases ending : (m.setState wanted spawn).1 with
    | crashed => simp [wish, ending, Session.answered, Event.isShutdown]
    | returned outcome =>
      cases outcome with
      | error => simp [wish, ending, Session.answered, Event.isShutdown]
      | ok =>
        obtain ⟨legal, alive⟩ := Session.alive_of_accepted ending
        have kept : m.shared.requested ≠ .dead := by simpa [Session.isDead] using alive
        simp [wish, ending, Session.answered, Event.isShutdown, legal, kept]
  | shutdown => simp [wish, Event.isShutdown]
  | work =>
    have same : m.shared.requested.promoted = .dead ↔ m.shared.requested = .dead := by
      cases m.shared.requested <;> simp [Visibility.promoted]
    simp only [wish, Event.isShutdown, Bool.false_eq_true, or_false]
    split
    · exact same
    · exact Iff.rfl
  | _ => simp [wish, Event.isShutdown]

theorem trace_isDead {c : Machine σ × δ} {es : List (Event δ)} (valid : (system σ δ).Valid c es) :
    ((system σ δ).run c es).1.shared.isDead = true ↔
      c.1.shared.isDead = true ∨ es.any (·.isShutdown) = true := by
  induction es generalizing c with
  | nil => simp
  | cons e es ih =>
    have first : ((system σ δ).next c e).1.shared.isDead = true ↔
        c.1.shared.isDead = true ∨ e.isShutdown = true := step_isDead valid.1
    rw [System.run_cons, ih valid.2, first, List.any_cons, Bool.or_eq_true, or_assoc]

theorem unshut_of_alive {c : Machine σ × δ} {es : List (Event δ)} (valid : (system σ δ).Valid c es)
    (alive : ((system σ δ).run c es).1.shared.isDead = false) : ∀ e ∈ es, e.isShutdown = false := by
  intro e mem
  by_contra shut
  have dead := (trace_isDead valid).mpr (.inr (List.any_eq_true.mpr ⟨e, mem, by simpa using shut⟩))
  exact Bool.false_ne_true (alive.symm.trans dead)

omit [Renderer σ] in
theorem dead_of_abandoned {j : Journal} (passing : Passing m) (booked : Booked m j)
    (drawing : m.phase.isDrawing = true) {t : Nat} (owner : j.inHand = some t) (left : t ∉ m.waiting) :
    m.shared.isDead = true := by
  have rendering := passing.drawing_rendering drawing
  cases dead : m.shared.isDead with
  | true => rfl
  | false =>
    have offered := (booked.drawing drawing).symm.trans owner
    exact absurd (booked.owner_waits passing dead (by simp [rendering]) offered) left

omit [Renderer σ] [Display δ] in
/-- A frame whose release has returned changes nothing of what is requested, whatever it comes to. -/
theorem wish_of_abandoned {j : Journal} (passing : Passing m) (booked : Booked m j) {t : Nat}
    (owner : j.inHand = some t) (left : t ∉ m.waiting) :
    m.wish (.work : Event δ) = m.shared.requested := by
  by_cases here : m.phase = .publishing .presented
  · have drawing : m.phase.isDrawing = true := by simp [here, Phase.isDrawing]
    have dead := dead_of_abandoned passing booked drawing owner left
    rw [wish, if_pos here]
    exact Visibility.promoted_of_off (.inr ((Session.isDead_iff _).mp dead))
  · rw [wish, if_neg here]

omit [Renderer σ] [Display δ] in
theorem wish_of_setState (stage : Stage m) (wanted : Visibility) (spawn : Spawn) :
    match (m.setState wanted spawn).1 with
    | .returned (.ok ()) => wanted ≠ .dead ∧ m.wish (.setState wanted spawn : Event δ) = wanted
    | .returned (.error err) => m.wish (.setState wanted spawn : Event δ) = m.shared.requested ∧
        (err = .deadRequested ∨ err = .sessionDead ∨
          ∃ reason, spawn = .refused reason ∧ err = .spawnFailed reason)
    | .crashed _ => m.wish (.setState wanted spawn : Event δ) = m.shared.requested := by
  cases ending : (m.setState wanted spawn).1 with
  | crashed => simp [wish, ending, Session.answered]
  | returned outcome =>
    cases outcome with
    | ok => exact ⟨(Session.alive_of_accepted ending).1, by simp [wish, ending, Session.answered]⟩
    | error err =>
      exact ⟨by simp [wish, ending, Session.answered],
        Session.setState_error stage.present_of_starts ending⟩

/-- The three ways to another request. -/
theorem step_changes_requested {e : Event δ} (enabled : m.Enabled e)
    (changed : (m.next d e).1.shared.requested ≠ m.shared.requested) :
    (∃ wanted spawn, e = .setState wanted spawn ∧
      (m.setState wanted spawn).1 = .returned (.ok ()) ∧ wanted ≠ .dead ∧
      (m.next d e).1.shared.requested = wanted) ∨
    (e = .shutdown ∧ m.shared.isDead = false ∧ (m.next d e).1.shared.requested = .dead) ∨
    (e = .work ∧ m.phase = .publishing .presented ∧
      (m.next d e).1.shared.tally.presented = m.shared.tally.presented + 1 ∧
      m.shared.requested = .visibleOnNextFrame ∧ (m.next d e).1.shared.requested = .visible) := by
  rw [step_requested enabled] at changed ⊢
  cases e with
  | setState wanted spawn =>
    left
    cases ending : (m.setState wanted spawn).1 with
    | crashed => simp [wish, ending, Session.answered] at changed
    | returned outcome =>
      cases outcome with
      | error => simp [wish, ending, Session.answered] at changed
      | ok =>
        refine ⟨wanted, spawn, rfl, ending, (Session.alive_of_accepted ending).1, ?_⟩
        simp [wish, ending, Session.answered]
  | shutdown =>
    right; left
    cases dead : m.shared.isDead with
    | false => exact ⟨rfl, rfl, rfl⟩
    | true => exact absurd ((Session.isDead_iff _).mp dead).symm changed
  | work =>
    right; right
    by_cases here : m.phase = .publishing .presented
    · simp only [wish, here, if_true] at changed ⊢
      rcases m.shared.requested.promoted_eq_or with same | ⟨next, promoted⟩
      · exact absurd same changed
      · refine ⟨trivial, trivial, ?_, next, promoted⟩
        simp [Machine.next, work, here, wakeCallers, Session.finishFrame, Tally.count]
    · simp [wish, here] at changed
  | _ => exact absurd rfl changed

theorem step_counts_presented {e : Event δ} (enabled : m.Enabled e)
    (counted : (m.next d e).1.shared.tally.presented ≠ m.shared.tally.presented) :
    (m.next d e).1.shared.requested = m.shared.requested.promoted := by
  rw [step_requested enabled]
  rcases move_tally (next_move m d e enabled) with same | ⟨r, rfl, here, tally⟩ | ⟨_, _, _, tally⟩
  · exact absurd (by rw [same]) counted
  · have presented : r = .presented := by
      cases r with
      | presented => rfl
      | discarded => exact absurd (by rw [tally]; rfl) counted
      | failed err => exact absurd (by rw [tally]; cases err <;> rfl) counted
    simp [wish, here, presented]
  · exact absurd (by rw [tally]; rfl) counted

theorem step_counts_other {e : Event δ} (enabled : m.Enabled e)
    (counted : (m.next d e).1.shared.tally.discarded ≠ m.shared.tally.discarded ∨
      (m.next d e).1.shared.tally.composeFailures ≠ m.shared.tally.composeFailures ∨
      (m.next d e).1.shared.tally.presentFailures ≠ m.shared.tally.presentFailures) :
    (m.next d e).1.shared.requested = m.shared.requested := by
  rw [step_requested enabled]
  rcases move_tally (next_move m d e enabled) with same | ⟨r, rfl, here, tally⟩ | ⟨_, _, rfl, _⟩
  · simp [same] at counted
  · have other : r ≠ .presented := by
      rintro rfl
      simp [tally, Tally.count] at counted
    simp [wish, here, other]
  · rfl

/-- In any order of callers and render thread, the requested state changes only to what an accepted call
asked for, to dead with the first shutdown, and from visible on the next frame to visible in the section
that counts a presented frame. No such section leaves a display to become visible on the next frame. A
frame that came to anything else, or whose caller has gone, changes nothing, and neither does a request
that was not accepted. -/
theorem requests_change_in_three_ways (info : DisplayInfo) (resource : UInt64) (shape : BufferShape)
    (renderer : σ) (d : δ) {es : List (Event δ)} {e : Event δ}
    (valid : (journaled σ δ).Valid ((Machine.fresh info resource shape renderer, d), {}) (es ++ [e])) :
    let c := (journaled σ δ).run ((Machine.fresh info resource shape renderer, d), {}) es
    let before := c.1.1.shared
    let after := ((journaled σ δ).next c e).1.1.shared
    (after.requested ≠ before.requested →
      (∃ wanted spawn, e = .setState wanted spawn ∧
        (c.1.1.setState wanted spawn).1 = .returned (.ok ()) ∧ wanted ≠ .dead ∧
        after.requested = wanted) ∨
      (e = .shutdown ∧ (∀ f ∈ es, f.isShutdown = false) ∧ after.requested = .dead) ∨
      (e = .work ∧ c.1.1.phase = .publishing .presented ∧
        after.tally.presented = before.tally.presented + 1 ∧
        before.requested = .visibleOnNextFrame ∧ after.requested = .visible)) ∧
    (∀ wanted spawn, e = .setState wanted spawn →
      match (c.1.1.setState wanted spawn).1 with
      | .returned (.ok ()) => wanted ≠ .dead ∧ after.requested = wanted
      | .returned (.error err) => after.requested = before.requested ∧
          (err = .deadRequested ∨ err = .sessionDead ∨
            ∃ reason, spawn = .refused reason ∧ err = .spawnFailed reason)
      | .crashed _ => after.requested = before.requested) ∧
    (e = .shutdown → after.requested = .dead) ∧
    (after.tally.presented ≠ before.tally.presented →
      after.requested = before.requested.promoted ∧ after.requested ≠ .visibleOnNextFrame ∧
        (before.requested = .notVisible ∨ before.requested = .dead →
          after.requested = before.requested)) ∧
    (after.tally.discarded ≠ before.tally.discarded ∨
      after.tally.composeFailures ≠ before.tally.composeFailures ∨
      after.tally.presentFailures ≠ before.tally.presentFailures →
        after.requested = before.requested) ∧
    (∀ t, e = .work → c.2.inHand = some t → t ∉ c.1.1.waiting →
      after.requested = before.requested) ∧
    ((∃ ticket, e = .resume ticket) ∨ (∃ crashed, e = .work ∧ c.1.1.phase = .leaving crashed) →
      after.requested = before.requested) := by
  intro c before after
  obtain ⟨past, ⟨enabled, _⟩, _⟩ := (System.valid_append _ _ es [e]).mp valid
  have reachable : (journaled σ δ).Reachable ((Machine.fresh info resource shape renderer, d), {}) c :=
    ⟨es, past, rfl⟩
  have ran : c.1 = (system σ δ).run (Machine.fresh info resource shape renderer, d) es :=
    System.run_observed ..
  have followed := reachable_followed info resource shape renderer d reachable
  have stage := reachable_stage info resource shape renderer d reachable.of_observed
  have asked : after.requested = c.1.1.wish e := step_requested (d := c.1.2) enabled
  refine ⟨?_, ?_, ?_, ?_, fun counted => step_counts_other enabled counted, ?_, ?_⟩
  · intro changed
    refine (step_changes_requested enabled changed).imp id (Or.imp ?_ id)
    rintro ⟨rfl, alive, dead⟩
    exact ⟨rfl, unshut_of_alive (System.valid_of_observed past) (ran ▸ alive), dead⟩
  · rintro wanted spawn rfl
    rw [asked]
    exact wish_of_setState stage wanted spawn
  · rintro rfl
    exact asked
  · intro counted
    have promoted : after.requested = before.requested.promoted := step_counts_presented enabled counted
    rw [promoted]
    exact ⟨rfl, before.requested.promoted_ne, Visibility.promoted_of_off⟩
  · rintro t rfl owner left
    exact asked.trans (wish_of_abandoned followed.passing followed.booked owner left)
  · rw [asked]
    rintro (⟨ticket, rfl⟩ | ⟨crashed, rfl, here⟩)
    · rfl
    · simp [wish, here, before]

/-- The display is hidden and asked to be shown again while a frame is in the thread's hands, and is made
visible by that frame. -/
theorem requests_change_in_three_ways_asked_again :
    let shape : BufferShape := ⟨4, 2, 1, .rgba8888, .none, 4⟩
    let c₀ : (Machine Rehearsal × HeadlessDisplay) × Journal :=
      ((Machine.fresh ⟨1, "panel", 4, 2, 0⟩ 1 shape {}, { owner := some 1 }), {})
    let es : List (Event HeadlessDisplay) :=
      [.setState .visible .started, .acquire, .release 0 ⟨shape, 1, 1, []⟩, .work, .work, .work,
        .setState .notVisible .started, .setState .visibleOnNextFrame .started, .work, .work]
    let c := (journaled Rehearsal HeadlessDisplay).run c₀ es
    (journaled Rehearsal HeadlessDisplay).Valid c₀ (es ++ [.work]) ∧
      c.1.1.shared.requested = .visibleOnNextFrame ∧
      ((journaled Rehearsal HeadlessDisplay).next c .work).1.1.shared.requested = .visible := by
  intro shape c₀ es c
  have valid : (journaled Rehearsal HeadlessDisplay).Valid c₀ (es ++ [.work]) := by decide
  have next : c.1.1.shared.requested = .visibleOnNextFrame := by decide
  obtain ⟨_, _, _, counted, _⟩ := requests_change_in_three_ways _ _ _ _ _ valid
  obtain ⟨promoted, _⟩ := counted (by decide)
  refine ⟨valid, next, ?_⟩
  rw [promoted, next]
  rfl

end Machine

end DisplaySurface
