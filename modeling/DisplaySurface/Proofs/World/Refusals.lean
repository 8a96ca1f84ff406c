import DisplaySurface.Proofs.World.Returns

/-!
What a call leaves behind that is turned down at once. It has looked at the session and gives up before
it changes anything, but for one exit of a release: where a buffer passes for the one that is out while a
frame is in flight, the frame is refused after the checkout was confirmed, and the buffer is checked in.
-/

namespace DisplaySurface

def SessionError.isPrompt : SessionError → Bool
  | .busy => true
  | e => e.isRefusal

def errorOf? {α : Type} : Except SessionError α → Option SessionError
  | .error e => some e
  | .ok _ => none

theorem errorOf?_eq_some_iff {α : Type} {r : Except SessionError α} {e : SessionError} :
    errorOf? r = some e ↔ r = .error e := by
  cases r <;> simp [errorOf?]

namespace Session

variable {s : Session} {e : SessionError}

theorem setState_of_prompt {wanted : Visibility} {spawn : Spawn}
    (h : (s.setState wanted spawn).1 = .returned (.error e)) (prompt : e.isPrompt = true) :
    (s.setState wanted spawn).2 = s := by
  unfold setState at h ⊢
  split
  · rfl
  · split
    · rfl
    · rename_i legal alive
      cases starts : s.starts wanted with
      | false => simp [legal, alive, starts] at h
      | true =>
        have stopped := ((starts_iff wanted s).mp starts).2.1
        cases present : s.hasRenderer with
        | false =>
          simp [startThread, Lifecycle.transition, Lifecycle.after?, stopped, present]
        | true =>
          cases spawn with
          | started | crashed =>
            simp [startThread, Lifecycle.transition, Lifecycle.after?, legal, alive, starts, stopped,
              present] at h
          | refused reason =>
            simp only [startThread, Lifecycle.transition, Lifecycle.after?, legal, alive, starts,
              stopped, present] at h
            cases h
            cases prompt

theorem acquire_of_error (h : s.acquire.1 = .error e) : s.acquire.2 = s := by
  cases dead : s.isDead with
  | true => simp [acquire, dead]
  | false =>
    cases busy : s.slot.busy with
    | true => simp [acquire, Slot.checkOut, dead, busy]
    | false => simp [acquire, Slot.checkOut, dead, busy] at h

theorem reallocate_of_error {shape : BufferShape} (h : (s.reallocate shape).1 = .error e) :
    (s.reallocate shape).2 = s := by
  rcases reallocate_cases shape s with ⟨_, refused⟩ | replaced
  · rw [refused]
  · simp [replaced] at h

theorem release_of_prompt {b : Checkout} (h : (s.release b).1 = .returned (.error e))
    (prompt : e.isPrompt = true) :
    s.slot.validate b ≠ .ok () ∧ (s.release b).2 = s ∨
      s.slot.validate b = .ok () ∧ s.handoff ≠ .idle ∧ e = .frameInFlight ∧
        (s.release b).2 = s.checkIn := by
  cases valid : s.slot.validate b with
  | error err =>
    left
    simp [release_of_invalid valid]
  | ok =>
    right
    have online : ¬ (s.isDead = true ∨ s.requested.isVisible = true ∧ s.thread ≠ .running) := by
      intro off
      rw [release_of_off valid off] at h
      cases h
      cases prompt
    simp only [not_or, not_and, not_not, Bool.not_eq_true] at online
    obtain ⟨alive, runs⟩ := online
    cases visible : s.requested.isVisible with
    | false =>
      rw [release_of_hidden valid alive visible] at h
      cases h
    | true =>
      by_cases idle : s.handoff = .idle
      · rw [release_of_idle valid alive visible (runs visible) idle] at h
        cases h
      · rw [release_of_occupied valid alive visible (runs visible) idle] at h ⊢
        cases h
        exact ⟨rfl, idle, rfl, rfl⟩

end Session

namespace Machine

variable {σ δ : Type}

/-- The error that a call returns with this section, if the call returns here and with an error. -/
def failure? (m : Machine σ) : Event δ → Option SessionError
  | .setState wanted spawn => match (m.setState wanted spawn).1 with
    | .returned outcome => errorOf? outcome
    | .crashed _ => none
  | .acquire => errorOf? m.acquire.1
  | .release _ b => match (m.shared.release b).1 with
    | .returned outcome => errorOf? outcome
    | .waiting => none
  | .reallocate shape => errorOf? (m.reallocate shape).1
  | .resume _ => if m.shared.mustWait && !m.poisoned then none else errorOf? m.shared.collect.1
  | _ => none

/-- A release that waited has an outcome that tells of its frame, or of the end of the session. -/
theorem Booked.collect_not_prompt {m : Machine σ} {j : Journal} (booked : Booked m j) {ticket : Nat}
    (waits : ticket ∈ m.waiting) {e : SessionError}
    (returns : m.shared.collect.1 = .error e) : e.isPrompt = false := by
  cases finished : m.shared.handoff.isDone with
  | true =>
    have ended := booked.ended_of_done waits finished
    rw [returns] at ended
    cases ended <;> rfl
  | false =>
    have off := Session.collect_of_not_done finished
    rw [returns] at off
    cases off
    rfl

theorem collected_of_failure {m : Machine σ} {ticket : Nat} {err : SessionError}
    (enabled : m.Enabled (.resume ticket : Event δ))
    (returns : m.failure? (.resume ticket : Event δ) = some err) :
    ticket ∈ m.waiting ∧ m.shared.collect.1 = .error err := by
  simp only [failure?] at returns
  split at returns
  · cases returns
  · exact ⟨mem_waiting_of_mem (mem_waiters_of_hasWaiter enabled), errorOf?_eq_some_iff.mp returns⟩

variable [Renderer σ] [Display δ] {m : Machine σ} {d : δ} {e : Event δ} {err : SessionError}

theorem step_of_prompt (returns : m.failure? e = some err) (prompt : err.isPrompt = true)
    (unwaited : ∀ ticket, e ≠ .resume ticket) :
    (m.next d e).1.shared = m.shared ∧
        (∀ ticket b, e = .release ticket b → m.shared.slot.validate b ≠ .ok ()) ∨
      ∃ ticket b, e = .release ticket b ∧ m.shared.slot.validate b = .ok () ∧
        m.shared.handoff ≠ .idle ∧ err = .frameInFlight ∧
          (m.next d e).1.shared = m.shared.checkIn := by
  cases e with
  | setState wanted spawn =>
    refine .inl ⟨?_, by simp⟩
    have ended : (m.shared.setState wanted spawn).1 = .returned (.error err) := by
      simp only [failure?, Machine.setState] at returns
      cases ending : (m.shared.setState wanted spawn).1 with
      | returned outcome =>
        rw [ending] at returns
        rw [errorOf?_eq_some_iff.mp returns]
      | crashed => simp [ending] at returns
    exact Session.setState_of_prompt ended prompt
  | acquire =>
    refine .inl ⟨?_, by simp⟩
    exact Session.acquire_of_error (errorOf?_eq_some_iff.mp returns)
  | reallocate shape =>
    refine .inl ⟨?_, by simp⟩
    exact Session.reallocate_of_error (errorOf?_eq_some_iff.mp returns)
  | release ticket b =>
    have ended : (m.shared.release b).1 = .returned (.error err) := by
      simp only [failure?] at returns
      cases first : (m.shared.release b).1 with
      | returned outcome =>
        rw [first] at returns
        rw [errorOf?_eq_some_iff.mp returns]
      | waiting => simp [first] at returns
    have kept : (m.next d (.release ticket b)).1.shared = (m.shared.release b).2 := by
      rcases both : m.shared.release b with ⟨first, shared⟩
      obtain rfl : first = .returned (.error err) := by rw [both] at ended; exact ended
      simp [Machine.next, Machine.release, both]
    rw [kept]
    rcases Session.release_of_prompt ended prompt with ⟨invalid, same⟩ | ⟨valid, occupied, err, freed⟩
    · refine .inl ⟨same, ?_⟩
      rintro _ _ ⟨⟩
      exact invalid
    · exact .inr ⟨ticket, b, rfl, valid, occupied, err, freed⟩
  | resume ticket => exact absurd rfl (unwaited ticket)
  | _ => cases returns

end Machine

namespace World

variable {ι σ δ : Type} [DecidableEq ι] [Renderer σ] [Display δ] {start w : World ι σ δ}

/-- A call that returns that the buffer is busy or stale, or that the session is in no state for it,
returns at once and leaves the session as it found it, but for one case: a release of a buffer that
passes for the one that is out, while a frame is in flight. That release ends the checkout. -/
theorem prompt_errors_keep_session_iff (new : start.IsNew)
    (h : (together ι σ δ).Reachable start w) {deed : Deed ι δ}
    (enabled : (together ι σ δ).Enabled w deed) {e : SessionError}
    (returns : (w.machine deed.site).failure? deed.event = some e) (prompt : e.isPrompt = true) :
    (∀ ticket, deed.event ≠ .resume ticket) ∧
    ((((together ι σ δ).next w deed).machine deed.site).shared = (w.machine deed.site).shared ↔
      ∀ ticket b, deed.event = .release ticket b → (w.slot deed.site).validate b ≠ .ok ()) ∧
    ((((together ι σ δ).next w deed).machine deed.site).shared ≠ (w.machine deed.site).shared →
      e = .frameInFlight ∧ (w.machine deed.site).shared.handoff ≠ .idle ∧
      (w.slot deed.site).busy = true ∧
      (((together ι σ δ).next w deed).machine deed.site).shared =
        (w.machine deed.site).shared.checkIn) := by
  have followed := new.followed h deed.site
  have unwaited : ∀ ticket, deed.event ≠ .resume ticket := by
    intro ticket waits
    have looks := enabled.2.1
    rw [waits] at returns looks
    obtain ⟨waits, collected⟩ := Machine.collected_of_failure looks returns
    have late := followed.booked.collect_not_prompt waits collected
    simp [late] at prompt
  rw [machine_at]
  refine ⟨unwaited, ?_⟩
  rcases Machine.step_of_prompt (d := (w.sessions deed.site).1.2) returns prompt unwaited with
    ⟨kept, invalid⟩ | ⟨ticket, b, released, valid, occupied, err, freed⟩
  · exact ⟨iff_of_true kept invalid, fun changed => absurd kept changed⟩
  · have busy := ((Slot.validate_eq_ok_iff _ _).mp valid).2
    have changed : (w.machine deed.site).shared.checkIn ≠ (w.machine deed.site).shared := by
      intro same
      have still : (w.machine deed.site).shared.checkIn.slot.busy = true := by rw [same]; exact busy
      cases still
    rw [freed]
    exact ⟨iff_of_false changed fun invalid => invalid ticket b released valid,
      fun _ => ⟨err, occupied, busy, rfl⟩⟩

/-- A frame is in flight, and the buffer is to be replaced. -/
theorem prompt_errors_keep_session_in_flight :
    let shape : BufferShape := ⟨4, 2, 1, .rgba8888, .none, 4⟩
    let start : World (Fin 2) Rehearsal HeadlessDisplay :=
      { sessions := fun _ =>
          ((Machine.fresh ⟨1, "panel", 4, 2, 0⟩ 1 shape {}, { owner := some 1 }), {}) }
    let own : Loan (Fin 2) := { origin := 0, serial := 1, buffer := ⟨shape, 1, 1, []⟩ }
    let deeds : List (Deed (Fin 2) HeadlessDisplay) :=
      [.call 0 (.setState .visible .started), .call 0 .acquire, .handBack 0 0 own []]
    let w := (together (Fin 2) Rehearsal HeadlessDisplay).run start deeds
    let w' := (together (Fin 2) Rehearsal HeadlessDisplay).next w (.call 0 (.reallocate shape))
    (together (Fin 2) Rehearsal HeadlessDisplay).Valid start deeds ∧
      ((w.machine 0).reallocate shape).1 = .error .busy ∧
      (w'.machine 0).shared = (w.machine 0).shared := by
  intro shape start own deeds w w'
  have new : start.IsNew := ⟨fun _ => ⟨_, _, _, _, _, rfl⟩, rfl⟩
  have valid : (together (Fin 2) Rehearsal HeadlessDisplay).Valid start deeds := by decide
  have reachable : (together (Fin 2) Rehearsal HeadlessDisplay).Reachable start w := ⟨deeds, valid, rfl⟩
  have enabled : (together (Fin 2) Rehearsal HeadlessDisplay).Enabled w
    (.call 0 (.reallocate shape)) := by decide
  have returns : (w.machine 0).failure? (.reallocate shape : Event HeadlessDisplay) = some .busy := by
    decide
  have all := prompt_errors_keep_session_iff new reachable enabled returns rfl
  refine ⟨valid, errorOf?_eq_some_iff.mp returns, all.2.1.mpr ?_⟩
  rintro _ _ ⟨⟩

/-- The second session is drawing a frame of its own buffer when a buffer of the first one is handed to
it. It refuses the frame, and lends the buffer that it is drawing once more. -/
theorem refused_frame_ends_checkout :
    let shape : BufferShape := ⟨4, 2, 1, .rgba8888, .none, 4⟩
    let start : World (Fin 2) Rehearsal HeadlessDisplay :=
      { sessions := fun _ =>
          ((Machine.fresh ⟨1, "panel", 4, 2, 0⟩ 1 shape {}, { owner := some 1 }), {}) }
    let foreign : Loan (Fin 2) := { origin := 0, serial := 1, buffer := ⟨shape, 1, 1, []⟩ }
    let own : Loan (Fin 2) := { origin := 1, serial := 1, buffer := ⟨shape, 1, 1, []⟩ }
    let deeds : List (Deed (Fin 2) HeadlessDisplay) :=
      [.call 0 .acquire, .call 1 .acquire, .call 1 (.setState .visible .started),
        .handBack 1 0 own [], .call 1 .work, .call 1 .work, .call 1 .work]
    let w := (together (Fin 2) Rehearsal HeadlessDisplay).run start deeds
    let deed : Deed (Fin 2) HeadlessDisplay := .handBack 1 1 foreign []
    let w' := (together (Fin 2) Rehearsal HeadlessDisplay).next w deed
    start.IsNew ∧ (together (Fin 2) Rehearsal HeadlessDisplay).Valid start deeds ∧
      (together (Fin 2) Rehearsal HeadlessDisplay).Enabled w deed ∧
      (w.machine 1).failure? deed.event = some .frameInFlight ∧
      SessionError.frameInFlight.isPrompt = true ∧
      (w.slot 1).busy = true ∧ (w'.slot 1).busy = false ∧
      (w'.machine 1).acquire.1 = .ok own.buffer := by
  intro shape start foreign own deeds w deed w'
  have new : start.IsNew := ⟨fun _ => ⟨_, _, _, _, _, rfl⟩, rfl⟩
  exact ⟨new, by decide, by decide, by decide, rfl, by decide, by decide, by decide⟩

end World

end DisplaySurface
