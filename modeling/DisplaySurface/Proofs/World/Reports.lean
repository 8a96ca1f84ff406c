import DisplaySurface.Proofs.World.Refusals

/-!
Where a session shows errors, and where the one comes from that tells of its display. Nobody makes it up
on the way: what a caller is told is what the display has answered to a frame.
-/

namespace DisplaySurface

theorem Phase.notified_unfailed (p : Phase) (e : SessionError) :
    p.notified = p ∨ p.notified ≠ .failing e ∧ p.notified ≠ .publishing (.failed e) := by
  rcases p.notified_eq_or with same | parked
  · exact .inl same
  · exact .inr (by simp [parked, notified])

namespace Session

theorem setState_unpresented (wanted : Visibility) (spawn : Spawn) (s : Session)
    (reason : String) : (s.setState wanted spawn).1 ≠ .returned (.error (.presentFailed reason)) := by
  have starting : (s.startThread spawn).1 ≠ .returned (.error (.presentFailed reason)) := by
    unfold startThread Lifecycle.transition
    cases s.thread.after? .start with
    | none => simp
    | some thread =>
      cases s.hasRenderer with
      | false => simp [SessionError.rendererGone]
      | true => cases spawn <;> simp
  unfold setState
  split
  · simp [SessionError.deadRequested]
  · split
    · simp [SessionError.sessionDead]
    · split
      · split
        · simp
        · exact starting
      · simp

theorem release_unpresented (b : Checkout) (s : Session) (reason : String) :
    (s.release b).1 ≠ .returned (.error (.presentFailed reason)) := by
  unfold release
  cases valid : s.slot.validate b with
  | error e =>
    rcases Slot.validate_error valid with rfl | rfl <;> simp [SessionError.notCheckedOut]
  | ok =>
    simp only
    split
    · simp
    · split
      · simp
      · split
        · simp
        · cases s.handoff <;> simp [Handoff.offer, SessionError.frameInFlight]

end Session

namespace Machine

variable {σ δ : Type}

/-- An error that a session shows anywhere, or is about to show. -/
inductive Reports (m : Machine σ) (e : SessionError) : Prop where
  | failing (here : m.phase = .failing e)
  | publishing (here : m.phase = .publishing (.failed e))
  | published (there : m.shared.handoff = .done (.error e))
  | recorded (fault : m.shared.fault = some e)
  | returned (ticket : Nat) (mem : (ticket, .error e) ∈ m.returned)

theorem not_reports_fresh (info : DisplayInfo) (resource : UInt64) (shape : BufferShape)
    (renderer : σ) (e : SessionError) : ¬ (Machine.fresh info resource shape renderer).Reports e := by
  rintro (here | here | there | fault | ⟨ticket, mem⟩)
  · cases here
  · cases here
  · cases there
  · cases fault
  · cases mem

theorem Reports.earlier {m m' : Machine σ} {e : SessionError} (reports : m'.Reports e)
    (phase : m'.phase = m.phase ∨ m'.phase ≠ .failing e ∧ m'.phase ≠ .publishing (.failed e))
    (handoff : m'.shared.handoff = m.shared.handoff ∨ m'.shared.handoff ≠ .done (.error e))
    (fault : m'.shared.fault = m.shared.fault ∨ m'.shared.fault ≠ some e)
    (returned : m'.returned = m.returned ∨
      ∃ ticket outcome, m'.returned = (ticket, outcome) :: m.returned ∧ outcome ≠ .error e) :
    m.Reports e := by
  cases reports with
  | failing here =>
    rcases phase with same | ⟨other, -⟩
    · exact .failing (same ▸ here)
    · exact absurd here other
  | publishing here =>
    rcases phase with same | ⟨-, other⟩
    · exact .publishing (same ▸ here)
    · exact absurd here other
  | published there =>
    rcases handoff with same | other
    · exact .published (same ▸ there)
    · exact absurd there other
  | recorded recorded =>
    rcases fault with same | other
    · exact .recorded (same ▸ recorded)
    · exact absurd recorded other
  | returned ticket mem =>
    rcases returned with same | ⟨ticket', outcome, new, other⟩
    · exact .returned ticket (same ▸ mem)
    · rw [new] at mem
      rcases List.mem_cons.mp mem with here | old
      · cases here
        exact absurd rfl other
      · exact .returned ticket old

theorem published_of_failure {m : Machine σ} {e : Event δ} {reason : String}
    (returns : m.failure? e = some (.presentFailed reason)) :
    m.shared.handoff = .done (.error (.presentFailed reason)) := by
  cases e with
  | setState wanted spawn =>
    have unpresented := Session.setState_unpresented wanted spawn m.shared reason
    simp only [failure?, Machine.setState] at returns
    split at returns
    · rename_i outcome ending
      rw [errorOf?_eq_some_iff.mp returns] at ending
      exact absurd ending unpresented
    · cases returns
  | acquire =>
    have refused := errorOf?_eq_some_iff.mp returns
    simp only [Machine.acquire, Session.acquire, Slot.checkOut] at refused
    split at refused
    · cases refused
    · split at refused <;> cases refused
  | release ticket b =>
    have unpresented := Session.release_unpresented b m.shared reason
    simp only [failure?] at returns
    split at returns
    · rename_i outcome ending
      rw [errorOf?_eq_some_iff.mp returns] at ending
      exact absurd ending unpresented
    · cases returns
  | reallocate shape =>
    have refused := errorOf?_eq_some_iff.mp returns
    simp only [Machine.reallocate, Session.reallocate] at refused
    split at refused
    · cases refused
    · split at refused
      · cases refused
      · split at refused <;> cases refused
  | resume ticket =>
    simp only [failure?] at returns
    split at returns
    · cases returns
    · have collected := errorOf?_eq_some_iff.mp returns
      cases handoff : m.shared.handoff with
      | done outcome =>
        rw [Session.collect_of_done handoff] at collected
        rw [collected]
      | idle | ready | rendering =>
        rw [Session.collect_of_not_done (by simp [handoff, Handoff.isDone])] at collected
        cases collected
  | _ => cases returns

variable [Renderer σ] [Display δ] {m : Machine σ} {d : δ}

theorem step_reports {e : Event δ} {c : Machine σ × δ} {reason : String} (move : Move m d e c)
    (reports : c.1.Reports (.presentFailed reason)) : m.Reports (.presentFailed reason) ∨
      ∃ frame, m.phase = .presenting frame ∧
        (Display.present m.resource frame d).1 = .failed reason := by
  cases move with
  | presentFailed frame d' answer here reply =>
    by_cases same : answer = reason
    · exact .inr ⟨frame, here, by simp [reply, same]⟩
    · exact .inl (reports.earlier (.inr ⟨by simp, by simp [same]⟩) (.inl rfl) (.inl rfl) (.inl rfl))
  | rejected ticket b e unused unreturned invalid =>
    have other : (.error e : Outcome) ≠ .error (.presentFailed reason) := by
      rcases Slot.validate_error invalid with rfl | rfl <;> simp [SessionError.notCheckedOut]
    exact .inl (reports.earlier (.inl rfl) (.inl rfl) (.inl rfl) (.inr ⟨_, _, rfl, other⟩))
  | releasedIdle | discarded | offerRefused =>
    exact .inl (reports.earlier (.inl rfl) (.inl rfl) (.inl rfl)
      (.inr ⟨_, _, rfl, by simp [SessionError.frameInFlight]⟩))
  | handOver =>
    exact .inl (reports.earlier (m.phase.notified_unfailed _) (by simp) (.inl rfl) (.inl rfl))
  | publish r here =>
    by_cases own : r = .failed (.presentFailed reason)
    · exact .inl (.publishing (own ▸ here))
    · have unfailed : r.outcome ≠ .error (.presentFailed reason) := by
        cases r <;> simp_all [Rendered.outcome]
      refine .inl (reports.earlier (.inr ⟨by simp [wakeCallers], by simp [wakeCallers]⟩) ?_ (.inl rfl)
        (.inl rfl))
      cases handoff : m.shared.handoff <;>
        simp [wakeCallers, Session.finishFrame, Handoff.finish, handoff, unfailed]
  | recordFault e here =>
    by_cases own : e = .presentFailed reason
    · exact .inl (.failing (own ▸ here))
    · exact .inl (reports.earlier (.inr ⟨by simp, by simp⟩) (.inl rfl)
        (.inr (by simp [Session.recordFault, own])) (.inl rfl))
  | leave crashed here =>
    refine .inl (reports.earlier (.inr ⟨by simp [wakeAll, Phase.notified], by
      simp [wakeAll, Phase.notified]⟩) (.inr (by simp [wakeAll])) ?_ (.inl rfl))
    simp only [wakeAll, Session.exit_fault]
    split
    · exact .inr (by simp)
    · exact .inl rfl
  | collect ticket woken settled =>
    by_cases published : m.shared.handoff = .done (.error (.presentFailed reason))
    · exact .inl (.published published)
    · have other : m.shared.collect.1 ≠ .error (.presentFailed reason) := by
        cases handoff : m.shared.handoff <;>
          simp_all [Session.collect, Handoff.collect]
      refine .inl (reports.earlier (.inl rfl) (.inr ?_) (.inl (by simp)) (.inr ⟨_, _, rfl, other⟩))
      cases handoff : m.shared.handoff <;> simp [Handoff.collect, Handoff.withdraw, handoff]
  | start | begin | started | startFailed | startBroke | park | stop
  | composed | composeFailed | composeBroke | presented | presentBroke =>
    exact .inl (reports.earlier (.inr ⟨by simp, by simp⟩) (.inl rfl) (.inl rfl) (.inl rfl))
  | take | skip =>
    exact .inl (reports.earlier (.inr ⟨by simp, by simp⟩) (by simp) (.inl rfl) (.inl rfl))
  | startRefused =>
    exact .inl (reports.earlier (.inl rfl) (.inl rfl) (by simp) (.inl rfl))
  | shutdownRunning | shutdownHalted =>
    exact .inl (reports.earlier (m.phase.notified_unfailed _) (.inl rfl) (.inl rfl) (.inl rfl))
  | strayWakeRender =>
    exact .inl (reports.earlier (.inr ⟨by simp, by simp⟩) (.inl rfl) (.inl rfl) (.inl rfl))
  | _ => exact .inl (reports.earlier (.inl rfl) (.inl rfl) (.inl rfl) (.inl rfl))

end Machine

end DisplaySurface
