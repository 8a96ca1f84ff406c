import DisplaySurface.Proofs.World.Loans

/-!
What a session does with a buffer other than the one that it has out. It looks at nothing but the
fingerprint. Every session counts its own from one, so a session that has its buffer out can take the
buffer of another one for it. When that has ended the loan before its time, and the session has lent the
same buffer again, it takes the first loan for the second.
-/

namespace DisplaySurface

def Journal.DrawsWithout (ticket : Nat) (j : Journal) : Prop :=
  ∀ o buffer layers, .drawn o buffer layers ∈ j.entries → ∃ t handed, o = some t ∧ t ≠ ticket ∧
    .handedOver t handed ∈ j.entries ∧ layers = Layer.inDrawingOrder handed

namespace World

variable {ι σ δ : Type}

/-- Why a buffer that is not the one out passes for it: another session lent it under the same
fingerprint, or the session itself lent it earlier and has not replaced the buffer since. -/
theorem passes_iff {w : World ι σ δ} (dated : w.Dated) (numbered : w.Numbered) {i : ι} {loan : Loan ι}
    (held : loan ∈ w.loans) (other : ¬ w.IsOut i loan) (layers : List Layer) :
    (w.slot i).validate (loan.buffer.add layers) = .ok () ↔
      (w.slot i).busy = true ∧
        (loan.origin ≠ i ∧ loan.buffer.fingerprint = (w.slot i).live.fingerprint ∨
          loan.origin = i ∧ loan.serial < w.latest i ∧ loan.revoked = false) := by
  rw [Slot.validate_eq_ok_iff, and_comm, and_congr_right_iff]
  intro busy
  by_cases own : loan.origin = i
  · subst own
    -- An own loan that is not the last one can only be older, and it keeps the live fingerprint until
    -- it is revoked.
    obtain ⟨notNewer, revoked⟩ := dated loan held
    have superseded : loan.serial < w.latest loan.origin :=
      (numbered.bounded loan held).lt_of_ne fun last => other ⟨rfl, last, busy⟩
    have current : loan.buffer.fingerprint = (w.slot loan.origin).live.fingerprint ↔
        loan.revoked = false := by
      rw [← Bool.not_eq_true, revoked]
      omega
    simpa [superseded, Checkout.add] using current
  · simp [own, Checkout.add]

variable [DecidableEq ι] [Renderer σ] [Display δ]

/-- A session turns a buffer away: the release is refused at once, the session's own buffer is as lent or
free as it was, and nothing that came with the release is ever drawn. -/
structure TurnsAway (w : World ι σ δ) (i : ι) (ticket : Nat) (loan : Loan ι) (layers : List Layer) :
    Prop where
  refused : ∃ e : SessionError, e.isRefusal = true ∧
    (((together ι σ δ).next w (.handBack i ticket loan layers)).machine i).returned =
      (ticket, .error e) :: (w.machine i).returned
  kept : (((together ι σ δ).next w (.handBack i ticket loan layers)).slot i).busy = (w.slot i).busy
  undrawn : ∀ deeds, (together ι σ δ).Valid w (.handBack i ticket loan layers :: deeds) →
    let w' := (together ι σ δ).run w (.handBack i ticket loan layers :: deeds)
    Machine.Recorded (w'.machine i) (w'.journal i) ∧ (w'.journal i).DrawsWithout ticket

end World

theorem Sound.drawsWithout_refused {j : Journal} (h : Sound j.entries) {t : Nat} {e : SessionError}
    (returned : .returned t (.error e) ∈ j.entries) (refusal : e.isRefusal = true) :
    j.DrawsWithout t := by
  intro o buffer layers drawn
  obtain ⟨t', handed, owner, mem, sorted⟩ := h.handed_in_order drawn
  refine ⟨t', handed, owner, ?_, mem, sorted⟩
  rintro rfl
  exact h.unhanded_of_refused returned refusal handed mem

namespace Machine

variable {σ δ : Type} [Renderer σ] [Display δ]

theorem reachable_keeps_entry {c c' : (Machine σ × δ) × Journal}
    (h : (journaled σ δ).Reachable c c') {f : Entry} (mem : f ∈ c.2.entries) : f ∈ c'.2.entries := by
  obtain ⟨es, _, rfl⟩ := h
  exact (suffix_run c es).subset mem

/-- A session refuses a buffer and leaves its own as it was exactly if the buffer does not pass for the
one that is out. -/
theorem move_refuses_iff {m : Machine σ} {d : δ} {ticket : Nat} {b : Checkout} {c : Machine σ × δ}
    (move : Move m d (.release ticket b) c) :
    (∃ e : SessionError, e.isRefusal = true ∧ c.1.returned = (ticket, .error e) :: m.returned ∧
      c.1.shared.slot.busy = m.shared.slot.busy) ↔ m.shared.slot.validate b ≠ .ok () := by
  constructor
  · rintro ⟨e, refusal, returned, kept⟩ valid
    have out := ((Slot.validate_eq_ok_iff _ _).mp valid).2
    cases move with
    | rejected _ _ _ _ _ invalid => simp [valid] at invalid
    | releasedIdle =>
      obtain rfl : SessionError.shutDown = e := by simpa using returned
      cases refusal
    | discarded | handOver => simp at returned
    | offerRefused => simp [Session.checkIn, Slot.checkIn, out] at kept
  · intro invalid
    cases move with
    | rejected _ _ err _ _ checked =>
      refine ⟨err, ?_, rfl, rfl⟩
      rcases Slot.validate_error checked with rfl | rfl <;> rfl
    | releasedIdle _ _ _ _ valid | discarded _ _ _ _ valid | offerRefused _ _ _ _ valid
    | handOver _ _ _ _ valid => exact absurd valid invalid

end Machine

namespace World

variable {ι σ δ : Type} [DecidableEq ι] [Renderer σ] [Display δ] {start w : World ι σ δ}

theorem IsNew.undrawn (new : start.IsNew) (h : (together ι σ δ).Reachable start w) {i : ι}
    {ticket : Nat} {e : SessionError} (refusal : e.isRefusal = true)
    (returned : (ticket, .error e) ∈ (w.machine i).returned) {deeds : List (Deed ι δ)}
    (valid : (together ι σ δ).Valid w deeds) :
    Machine.Recorded (((together ι σ δ).run w deeds).machine i)
        (((together ι σ δ).run w deeds).journal i) ∧
      (((together ι σ δ).run w deeds).journal i).DrawsWithout ticket := by
  have before := (new.followed h i).recorded.returned
  have after := new.followed (h.trace valid) i
  have noted : .returned ticket (.error e) ∈ (w.journal i).entries := by
    have mem : (ticket, .error e) ∈ (w.journal i).entries.filterMap Entry.returned? := by
      unfold journal
      rw [before]
      exact returned
    obtain ⟨entry, had, same⟩ := List.mem_filterMap.mp mem
    cases entry <;> cases same
    exact had
  have still := Machine.reachable_keeps_entry (trace_session valid i) noted
  exact ⟨after.recorded, after.booked.sound.drawsWithout_refused still refusal⟩

/-- A session turns away every buffer but the one that it has out, with two exceptions. While its own
buffer is out, it takes a buffer of another session that has the same fingerprint, and a buffer that it
lent itself before that one, unless it has replaced the buffer. -/
theorem turnsAway_iff (new : start.IsNew) (h : (together ι σ δ).Reachable start w) {i : ι}
    {ticket : Nat} {loan : Loan ι} {layers : List Layer}
    (enabled : (together ι σ δ).Enabled w (.handBack i ticket loan layers))
    (other : ¬ w.IsOut i loan) :
    w.TurnsAway i ticket loan layers ↔
      ¬ ((w.slot i).busy = true ∧
        (loan.origin ≠ i ∧ loan.buffer.fingerprint = (w.slot i).live.fingerprint ∨
          loan.origin = i ∧ loan.serial < w.latest i ∧ loan.revoked = false)) := by
  have move : Machine.Move (w.machine i) (w.sessions i).1.2
      (.release ticket (loan.buffer.add layers)) _ := Machine.next_move _ _ _ enabled.2.1
  have refuses := Machine.move_refuses_iff move
  have there := machine_at w (.handBack i ticket loan layers)
  simp only [Deed.site, Deed.event] at there
  rw [← there] at refuses
  rw [← passes_iff (reachable_dated new h) (reachable_numbered new h) enabled.1 other layers]
  constructor
  · rintro ⟨⟨e, refusal, returned⟩, kept, _⟩
    exact refuses.mp ⟨e, refusal, returned, kept⟩
  · intro invalid
    obtain ⟨e, refusal, returned, kept⟩ := refuses.mpr invalid
    refine ⟨⟨e, refusal, returned⟩, kept, fun deeds valid => ?_⟩
    exact new.undrawn (h.tail enabled) refusal (by rw [returned]; exact List.mem_cons_self) valid.2

/-- The first session has replaced its buffer and lent the new one, when a buffer of the second session
comes back to it. -/
theorem turnsAway_other_fingerprint :
    let shape : BufferShape := ⟨4, 2, 1, .rgba8888, .none, 4⟩
    let start : World (Fin 2) Rehearsal HeadlessDisplay :=
      { sessions := fun _ =>
          ((Machine.fresh ⟨1, "panel", 4, 2, 0⟩ 1 shape {}, { owner := some 1 }), {}) }
    let deeds : List (Deed (Fin 2) HeadlessDisplay) :=
      [.call 0 (.reallocate shape), .call 0 .acquire, .call 1 .acquire]
    let w := (together (Fin 2) Rehearsal HeadlessDisplay).run start deeds
    let foreign : Loan (Fin 2) := { origin := 1, serial := 1, buffer := ⟨shape, 1, 1, []⟩ }
    start.IsNew ∧ (together (Fin 2) Rehearsal HeadlessDisplay).Valid start deeds ∧
      (together (Fin 2) Rehearsal HeadlessDisplay).Enabled w (.handBack 0 0 foreign []) ∧
      (w.slot 0).busy = true ∧ w.TurnsAway 0 0 foreign [] := by
  intro shape start deeds w foreign
  have new : start.IsNew := ⟨fun _ => ⟨_, _, _, _, _, rfl⟩, rfl⟩
  have valid : (together (Fin 2) Rehearsal HeadlessDisplay).Valid start deeds := by decide
  have enabled : (together (Fin 2) Rehearsal HeadlessDisplay).Enabled w (.handBack 0 0 foreign []) := by
    decide
  have reachable : (together (Fin 2) Rehearsal HeadlessDisplay).Reachable start w := ⟨deeds, valid, rfl⟩
  have exact := turnsAway_iff new reachable enabled (by decide)
  exact ⟨new, valid, enabled, by decide, exact.mpr (by decide)⟩

/-- Two sessions have lent their first buffers. The buffer of the first one is handed to the second, which
shows its layer and counts its own buffer as returned; who has that one is refused. Once the session has
lent its buffer again, it takes the loan that it refused for the new one. -/
theorem foreign_buffer_shown :
    let shape : BufferShape := ⟨4, 2, 1, .rgba8888, .none, 4⟩
    let layer : Layer := ⟨0, ⟨0, 0, 4, 2⟩, ⟨255, 0, 0, 255⟩⟩
    let start : World (Fin 2) Rehearsal HeadlessDisplay :=
      { sessions := fun _ =>
          ((Machine.fresh ⟨1, "panel", 4, 2, 0⟩ 1 shape {}, { owner := some 1 }), {}) }
    let deeds : List (Deed (Fin 2) HeadlessDisplay) :=
      [.call 0 .acquire, .call 1 .acquire, .call 1 (.setState .visible .started)]
    let w := (together (Fin 2) Rehearsal HeadlessDisplay).run start deeds
    let foreign : Loan (Fin 2) := { origin := 0, serial := 1, buffer := ⟨shape, 1, 1, []⟩ }
    let own : Loan (Fin 2) := { origin := 1, serial := 1, buffer := ⟨shape, 1, 1, []⟩ }
    let more : List (Deed (Fin 2) HeadlessDisplay) :=
      [.handBack 1 0 foreign [layer], .call 1 .work, .call 1 .work, .call 1 .work, .call 1 .work,
        .call 1 .work, .call 1 .work, .call 1 (.resume 0)]
    let w' := (together (Fin 2) Rehearsal HeadlessDisplay).run w more
    let w'' := (together (Fin 2) Rehearsal HeadlessDisplay).next w' (.call 1 .acquire)
    start.IsNew ∧ (together (Fin 2) Rehearsal HeadlessDisplay).Valid start deeds ∧
      (together (Fin 2) Rehearsal HeadlessDisplay).Valid w more ∧
      ¬ w.IsOut 1 foreign ∧ ¬ w.TurnsAway 1 0 foreign [layer] ∧
      .composed (some 0) .done ∈ (w'.journal 1).entries ∧ (w'.machine 1).returned = [(0, .ok ())] ∧
      own ∈ w'.loans ∧ (w'.slot 1).busy = false ∧
      (w'.slot 1).validate own.buffer = .error .notCheckedOut ∧
      (together (Fin 2) Rehearsal HeadlessDisplay).Enabled w'' (.handBack 1 1 own [layer]) ∧
      ¬ w''.IsOut 1 own ∧ ¬ w''.TurnsAway 1 1 own [layer] := by
  intro shape layer start deeds w foreign own more w' w''
  have new : start.IsNew := ⟨fun _ => ⟨_, _, _, _, _, rfl⟩, rfl⟩
  have waits : (((together (Fin 2) Rehearsal HeadlessDisplay).next w
    (.handBack 1 0 foreign [layer])).machine 1).returned = [] := by decide
  have waits' : (((together (Fin 2) Rehearsal HeadlessDisplay).next w''
    (.handBack 1 1 own [layer])).machine 1).returned = [(0, .ok ())] := by decide
  refine ⟨new, by decide, by decide, by decide, ?_, by decide, by decide, by decide, by decide,
    by decide, by decide, by decide, ?_⟩
  · rintro ⟨⟨e, _, returned⟩, _, _⟩
    simp [waits] at returned
  · rintro ⟨⟨e, _, returned⟩, _, _⟩
    simp [waits'] at returned

end World

end DisplaySurface
