import DisplaySurface.Proofs.Machine.Journal
import DisplaySurface.Proofs.Machine.WakeUps

/-!
Each release gets the outcome of its own frame, and each frame is drawn at most once. Frame and outcome
pass through one place that other callers, a shutdown and a thread that leaves touch as well.
-/

namespace DisplaySurface.Machine

variable {σ δ : Type}

/-- How the journal stands to the session. -/
structure Booked (m : Machine σ) (j : Journal) : Prop where
  sound : Sound j.entries
  known : ∀ e ∈ j.entries, ∀ t, e.ticket? = some t → t ∈ m.waiting ∨ t ∈ m.returned.map (·.1)
  handed : ∀ t ∈ m.waiting, ∃ layers, .handedOver t layers ∈ j.entries
  own : ∀ t ∈ m.waiting, m.shared.handoff = .idle ∨ j.offered = some t
  cancelled : m.shared.isCancelled = true → ∀ t ∈ m.waiting, CutOff j.entries t
  ready : ∀ frame, m.shared.handoff = .ready frame → ∃ t, j.offered = some t ∧
    .handedOver t frame.layers ∈ j.entries ∧ ∀ requested, .taken (some t) requested ∉ j.entries
  done : ∀ outcome, m.shared.handoff = .done outcome → ∃ t, j.offered = some t ∧
    Ended j.entries t outcome
  drawing : m.phase.isDrawing = true → j.inHand = j.offered
  composing : ∀ frame, m.phase = .composing frame →
    .drawn j.inHand frame.buffer frame.layers ∈ j.entries ∧
      ∀ reply, .composed j.inHand reply ∉ j.entries
  presenting : ∀ frame, m.phase = .presenting frame →
    (∃ layers, .drawn j.inHand frame.buffer layers ∈ j.entries) ∧
      .composed j.inHand .done ∈ j.entries ∧ ∀ frame reply, .shown j.inHand frame reply ∉ j.entries
  publishing : ∀ r, m.phase = .publishing r → ∃ t, j.inHand = some t ∧ Ended j.entries t r.outcome

namespace Booked

theorem initial (info : DisplayInfo) (resource : UInt64) (shape : BufferShape) (renderer : σ) :
    Booked (Machine.fresh info resource shape renderer) {} := by
  constructor <;> simp [Machine.fresh, Session.new, Phase.isDrawing, waiting, Sound]

variable {m m' : Machine σ} {j : Journal}

theorem fresh (h : Booked m j) {t : Nat} (unused : t ∉ m.waiting)
    (unreturned : t ∉ m.returned.map (·.1)) : ∀ e ∈ j.entries, e.ticket? ≠ some t := by
  intro e he ticket
  rcases h.known e he t ticket with waits | returned
  · exact unused waits
  · exact unreturned returned

theorem owner_waits (h : Booked m j) (passing : Passing m) (alive : m.shared.isDead = false)
    (occupied : m.shared.handoff ≠ .idle) {t : Nat} (owner : j.offered = some t) : t ∈ m.waiting := by
  have somebody : m.waiters ≠ [] := by simpa [alive] using passing.occupied_claimed occupied
  obtain ⟨w, ws, waiters⟩ := List.exists_cons_of_ne_nil somebody
  have waits : w.ticket ∈ m.waiting := by simp [waiting, waiters]
  rcases h.own w.ticket waits with idle | own
  · exact absurd idle occupied
  · rw [Option.some.inj (owner.symm.trans own)]
    exact waits

theorem onward (h : Booked m j) (waiting : ∀ t ∈ m'.waiting, t ∈ m.waiting)
    (known : ∀ t, t ∈ m.waiting ∨ t ∈ m.returned.map (·.1) →
      t ∈ m'.waiting ∨ t ∈ m'.returned.map (·.1))
    (handoff : m'.shared.handoff = m.shared.handoff ∨ m'.shared.handoff = .idle)
    (cancelled : m'.shared.isCancelled = true →
      ∀ t ∈ m'.waiting, m.shared.isCancelled = true ∨ CutOff j.entries t)
    (phase : m'.phase = m.phase ∨ m'.phase.isDrawing = false) : Booked m' j := by
  have undrawn (other : m'.phase.isDrawing = false) {p : Phase} (here : m'.phase = p)
      (drawing : p.isDrawing = true) : False := by
    rw [here, drawing] at other
    cases other
  constructor
  · exact h.sound
  · intro e he t ticket
    exact known t (h.known e he t ticket)
  · intro t waits
    exact h.handed t (waiting t waits)
  · intro t waits
    rcases handoff with same | idle
    · rw [same]
      exact h.own t (waiting t waits)
    · exact .inl idle
  · intro now t waits
    rcases cancelled now t waits with before | cut
    · exact h.cancelled before t (waiting t waits)
    · exact cut
  · intro frame ready
    rcases handoff with same | idle
    · exact h.ready frame (same ▸ ready)
    · simp [idle] at ready
  · intro outcome done
    rcases handoff with same | idle
    · exact h.done outcome (same ▸ done)
    · simp [idle] at done
  · intro drawing
    rcases phase with same | other
    · exact h.drawing (same ▸ drawing)
    · simp [other] at drawing
  · intro frame here
    rcases phase with same | other
    · exact h.composing frame (same ▸ here)
    · exact (undrawn other here rfl).elim
  · intro frame here
    rcases phase with same | other
    · exact h.presenting frame (same ▸ here)
    · exact (undrawn other here rfl).elim
  · intro r here
    rcases phase with same | other
    · exact h.publishing r (same ▸ here)
    · exact (undrawn other here rfl).elim

theorem quiet (h : Booked m j) (waiting : m'.waiting = m.waiting) (returned : m'.returned = m.returned)
    (handoff : m'.shared.handoff = m.shared.handoff)
    (cancelled : m'.shared.isCancelled = m.shared.isCancelled)
    (phase : m'.phase = m.phase ∨ m'.phase.isDrawing = false) : Booked m' j := by
  refine h.onward ?_ ?_ (.inl handoff) ?_ phase
  · intro t waits
    exact waiting ▸ waits
  · intro t known
    rw [waiting, returned]
    exact known
  · intro now _ _
    exact .inl (cancelled ▸ now)

theorem write_plain (h : Booked m j) {e : Entry} (plain : e.isPlain = true)
    (justified : Justified j.entries e)
    (known : ∀ t, e.ticket? = some t → t ∈ m.waiting ∨ t ∈ m.returned.map (·.1)) :
    Booked m (j.write e) := by
  have keep : ∀ f ∈ j.entries, f ∈ e :: j.entries := fun f hf => List.mem_cons_of_mem e hf
  have old {f : Entry} (frame : f.isPlain = false) (mem : f ∈ e :: j.entries) : f ∈ j.entries := by
    rcases List.mem_cons.mp mem with rfl | mem
    · simp [plain] at frame
    · exact mem
  constructor
  · exact ⟨justified, h.sound⟩
  · intro f hf t ticket
    rcases List.mem_cons.mp hf with rfl | hf
    · exact known t ticket
    · exact h.known f hf t ticket
  · intro t waits
    exact (h.handed t waits).imp fun layers mem => keep _ mem
  · exact h.own
  · intro now t waits
    exact (h.cancelled now t waits).cons e
  · intro frame ready
    obtain ⟨t, offered, handed, untaken⟩ := h.ready frame ready
    exact ⟨t, offered, keep _ handed, fun requested mem => untaken requested (old rfl mem)⟩
  · intro outcome done
    obtain ⟨t, offered, ended⟩ := h.done outcome done
    exact ⟨t, offered, ended.mono keep⟩
  · exact h.drawing
  · intro frame here
    obtain ⟨drawn, unanswered⟩ := h.composing frame here
    exact ⟨keep _ drawn, fun reply mem => unanswered reply (old rfl mem)⟩
  · intro frame here
    obtain ⟨⟨layers, drawn⟩, composed, unshown⟩ := h.presenting frame here
    exact ⟨⟨layers, keep _ drawn⟩, keep _ composed,
      fun frame reply mem => unshown frame reply (old rfl mem)⟩
  · intro r here
    obtain ⟨t, owner, ended⟩ := h.publishing r here
    exact ⟨t, owner, ended.mono keep⟩

theorem cut (h : Booked m j) {e : Entry} (cut : e = .shutDown ∨ e = .exited)
    (waiting : m'.waiting = m.waiting) (returned : m'.returned = m.returned)
    (handoff : m'.shared.handoff = m.shared.handoff ∨ m'.shared.handoff = .idle)
    (phase : m'.phase = m.phase ∨ m'.phase.isDrawing = false) : Booked m' (j.write e) := by
  have written : Booked m (j.write e) := by
    rcases cut with rfl | rfl
    · exact h.write_plain rfl trivial (by simp [Entry.ticket?])
    · exact h.write_plain rfl trivial (by simp [Entry.ticket?])
  refine written.onward ?_ ?_ handoff ?_ phase
  · intro t waits
    exact waiting ▸ waits
  · intro t known
    rw [waiting, returned]
    exact known
  · intro _ t waits
    right
    obtain ⟨layers, handed⟩ := h.handed t (waiting ▸ waits)
    exact cutOff_of_mem handed cut

theorem write_drawing (h : Booked m j) (passing : Passing m) {e : Entry}
    (here : m.phase.isDrawing = true) (shared : m'.shared = m.shared)
    (waiting : m'.waiting = m.waiting) (returned : m'.returned = m.returned)
    (justified : Justified j.entries e) (owner : e.ticket? = j.inHand)
    (before : ∃ f ∈ j.entries, f.ticket? = j.inHand) (composing : ∀ frame, m'.phase ≠ .composing frame)
    (presenting : ∀ frame, m'.phase = .presenting frame →
      (∃ layers, .drawn j.inHand frame.buffer layers ∈ e :: j.entries) ∧
        .composed j.inHand .done ∈ e :: j.entries ∧
          ∀ frame reply, .shown j.inHand frame reply ∉ e :: j.entries)
    (publishing : ∀ r, m'.phase = .publishing r →
      ∃ t, j.inHand = some t ∧ Ended (e :: j.entries) t r.outcome) : Booked m' (j.write e) := by
  have rendering := passing.drawing_rendering here
  have keep : ∀ f ∈ j.entries, f ∈ e :: j.entries := fun f hf => List.mem_cons_of_mem e hf
  constructor
  · exact ⟨justified, h.sound⟩
  · intro f hf t ticket
    rw [waiting, returned]
    rcases List.mem_cons.mp hf with rfl | hf
    · obtain ⟨g, hg, same⟩ := before
      exact h.known g hg t (by rw [same, ← owner, ticket])
    · exact h.known f hf t ticket
  · rw [waiting]
    intro t waits
    exact (h.handed t waits).imp fun layers mem => keep _ mem
  · rw [waiting, shared]
    exact h.own
  · rw [waiting, shared]
    intro now t waits
    exact (h.cancelled now t waits).cons e
  · simp [shared, rendering]
  · simp [shared, rendering]
  · intro _
    exact h.drawing here
  · intro frame there
    exact absurd there (composing frame)
  · exact presenting
  · exact publishing

/-- The render thread takes the frame that is ready. It becomes the owner's one frame in hand. -/
theorem take (h : Booked m j) {frame : Submission} {j' : Journal} (more : List Entry)
    (ready : m.shared.handoff = .ready frame)
    (shared : m'.shared = { m.shared with handoff := .rendering })
    (waiting : m'.waiting = m.waiting) (returned : m'.returned = m.returned)
    (offered : j'.offered = j.offered) (inHand : j'.inHand = j.offered)
    (entries : j'.entries = more ++ j.entries) (owners : ∀ e ∈ more, e.ticket? = j.offered)
    (sound : ∀ t, j.offered = some t → .handedOver t frame.layers ∈ j.entries →
      (∀ requested, .taken (some t) requested ∉ j.entries) → Sound j'.entries)
    (composing : ∀ f, m'.phase = .composing f → .drawn j.offered f.buffer f.layers ∈ more ∧
      ∀ reply, .composed j.offered reply ∉ more)
    (presenting : ∀ f, m'.phase ≠ .presenting f)
    (publishing : ∀ r, m'.phase = .publishing r → ∀ t, j.offered = some t →
      Ended j'.entries t r.outcome) : Booked m' j' := by
  obtain ⟨t, owner, handed, untaken⟩ := h.ready frame ready
  have keep : ∀ f ∈ j.entries, f ∈ j'.entries := fun f hf => by simp [entries, hf]
  have cancelled : m'.shared.isCancelled = m.shared.isCancelled := by rw [shared]; rfl
  constructor
  · exact sound t owner handed untaken
  · intro f hf t' ticket
    rw [waiting, returned]
    rw [entries] at hf
    rcases List.mem_append.mp hf with hf | hf
    · exact h.known _ handed t' (by rw [← ticket, owners f hf, owner]; rfl)
    · exact h.known f hf t' ticket
  · rw [waiting]
    intro t waits
    exact (h.handed t waits).imp fun layers mem => keep _ mem
  · intro t' waits
    rcases h.own t' (waiting ▸ waits) with idle | own
    · simp [idle] at ready
    · exact .inr (offered.trans own)
  · rw [cancelled, waiting, entries]
    intro now t' waits
    obtain ⟨newer, layers, older, split, cut⟩ := h.cancelled now t' waits
    exact ⟨more ++ newer, layers, older, by rw [split, List.append_assoc],
      cut.imp (List.mem_append_right more) (List.mem_append_right more)⟩
  · simp [shared]
  · simp [shared]
  · intro _
    exact inHand.trans offered.symm
  · intro f there
    obtain ⟨drawn, unanswered⟩ := composing f there
    rw [inHand, entries]
    refine ⟨List.mem_append_left _ drawn, fun reply mem => ?_⟩
    rcases List.mem_append.mp mem with mem | mem
    · exact unanswered reply mem
    · -- An answer needs a call, and a call that the frame was taken.
      obtain ⟨requested, taken⟩ := h.sound.taken_of_composed mem
      exact untaken requested (owner ▸ taken)
  · intro f there
    exact absurd there (presenting f)
  · intro r there
    exact ⟨t, inHand.trans owner, publishing r there t owner⟩

theorem returned_at_once (h : Booked m j) {ticket : Nat} {outcome : Outcome}
    (unused : ticket ∉ m.waiting) (unreturned : ticket ∉ m.returned.map (·.1))
    (waiting : m'.waiting = m.waiting) (returned : m'.returned = (ticket, outcome) :: m.returned)
    (handoff : m'.shared.handoff = m.shared.handoff)
    (cancelled : m'.shared.isCancelled = m.shared.isCancelled) (phase : m'.phase = m.phase) :
    Booked m' (j.write (.returned ticket outcome)) := by
  have onward : Booked m' j := by
    refine h.onward ?_ ?_ (.inl handoff) ?_ (.inl phase)
    · intro t waits
      exact waiting ▸ waits
    · intro t known
      rw [waiting, returned]
      exact known.imp id fun known => List.mem_cons_of_mem _ known
    · intro now _ _
      exact .inl (cancelled ▸ now)
  refine onward.write_plain rfl (.inl (h.fresh unused unreturned)) ?_
  intro t same
  obtain rfl : ticket = t := by simpa [Entry.ticket?] using same
  simp [returned]

theorem handOver (h : Booked m j) {ticket : Nat} (frame : Submission) (unused : ticket ∉ m.waiting)
    (unreturned : ticket ∉ m.returned.map (·.1)) (nobody : m.waiting = [])
    (waiting : m'.waiting = [ticket]) (returned : m'.returned = m.returned)
    (handoff : m'.shared.handoff = .ready frame) (kept : m'.shared.isCancelled = false)
    (undrawn : m'.phase.isDrawing = false) :
    Booked m' { j.write (.handedOver ticket frame.layers) with offered := some ticket } := by
  have fresh := h.fresh unused unreturned
  constructor
  · exact ⟨fresh, h.sound⟩
  · intro e he t same
    rw [waiting, returned]
    rcases List.mem_cons.mp he with rfl | he
    · obtain rfl : ticket = t := by simpa [Entry.ticket?] using same
      simp
    · exact .inr (by simpa [nobody] using h.known e he t same)
  · rw [waiting]
    intro t waits
    exact ⟨frame.layers, by simp [Journal.write, List.mem_singleton.mp waits]⟩
  · rw [waiting]
    intro t waits
    exact .inr (by simp [List.mem_singleton.mp waits])
  · simp [kept]
  · intro f ready
    obtain rfl : frame = f := by simpa [handoff] using ready
    refine ⟨ticket, rfl, List.mem_cons_self, fun requested mem => ?_⟩
    simp only [Journal.write, List.mem_cons, reduceCtorEq, false_or] at mem
    exact fresh _ mem rfl
  · simp [handoff]
  · simp [undrawn]
  · intro f there
    simp [there, Phase.isDrawing] at undrawn
  · intro f there
    simp [there, Phase.isDrawing] at undrawn
  · intro r there
    simp [there, Phase.isDrawing] at undrawn

theorem publish (h : Booked m j) {r : Rendered} (passing : Passing m) (here : m.phase = .publishing r)
    (handoff : m'.shared.handoff = .done r.outcome)
    (cancelled : m'.shared.isCancelled = m.shared.isCancelled) (waiting : m'.waiting = m.waiting)
    (returned : m'.returned = m.returned) (phase : m'.phase.isDrawing = false) :
    Booked m' { j with offered := j.inHand, inHand := none } := by
  have drawing : m.phase.isDrawing = true := by simp [here, Phase.isDrawing]
  have rendering := passing.drawing_rendering drawing
  have same := h.drawing drawing
  constructor
  · exact h.sound
  · rw [waiting, returned]
    exact h.known
  · rw [waiting]
    exact h.handed
  · rw [waiting]
    intro t waits
    rcases h.own t waits with idle | own
    · simp [idle] at rendering
    · exact .inr (same.trans own)
  · rw [waiting, cancelled]
    exact h.cancelled
  · simp [handoff]
  · intro outcome done
    obtain rfl : r.outcome = outcome := by simpa [handoff] using done
    exact h.publishing r here
  · simp [phase]
  · intro frame there
    simp [there, Phase.isDrawing] at phase
  · intro frame there
    simp [there, Phase.isDrawing] at phase
  · intro r there
    simp [there, Phase.isDrawing] at phase

/-- An outcome that is there belongs to the one release that waits. -/
theorem ended_of_done (h : Booked m j) {ticket : Nat} (waits : ticket ∈ m.waiting)
    (finished : m.shared.handoff.isDone = true) : Ended j.entries ticket m.shared.collect.1 := by
  obtain ⟨outcome, done⟩ := Handoff.done_of_isDone finished
  obtain ⟨t, owner, ended⟩ := h.done outcome done
  rcases h.own ticket waits with idle | own
  · simp [idle] at done
  · obtain rfl : t = ticket := by simpa [owner] using own
    rw [Session.collect_of_done done]
    exact ended

theorem earned (h : Booked m j) {ticket : Nat} (waits : ticket ∈ m.waiting)
    (settled : m.shared.mustWait = false) : Earned j.entries ticket m.shared.collect.1 := by
  cases finished : m.shared.handoff.isDone with
  | true => exact .inl (h.ended_of_done waits finished)
  | false =>
    have cancelled : m.shared.isCancelled = true := by
      rw [Session.isCancelled_eq_true_iff]
      simpa [finished] using (Session.mustWait_eq_false_iff _).mp settled
    exact .inr ⟨Session.collect_of_not_done finished, h.cancelled cancelled ticket waits⟩

theorem collect (h : Booked m j) {ticket : Nat} (waits : ticket ∈ m.waiting)
    (granted : Earned j.entries ticket m.shared.collect.1 ∨
      m.shared.collect.1 = .error .shutDown ∧ Untaken j.entries)
    (shared : m'.shared = m.shared.collect.2)
    (waiting : ∀ t, t ∈ m'.waiting ↔ t ∈ m.waiting ∧ t ≠ ticket)
    (returned : m'.returned = (ticket, m.shared.collect.1) :: m.returned) (phase : m'.phase = m.phase) :
    Booked m' (j.write (.returned ticket m.shared.collect.1)) := by
  have written : Booked m (j.write (.returned ticket m.shared.collect.1)) := by
    refine h.write_plain rfl (.inr ⟨h.handed ticket waits, granted⟩) ?_
    intro t same
    obtain rfl : ticket = t := by simpa [Entry.ticket?] using same
    exact .inl waits
  refine written.onward ?_ ?_ ?_ ?_ (.inl phase)
  · intro t waits
    exact ((waiting t).mp waits).1
  · intro t known
    by_cases own : t = ticket
    · exact .inr (by simp [own, returned])
    · rw [returned]
      exact known.imp (fun waits => (waiting t).mpr ⟨waits, own⟩) (List.mem_cons_of_mem _)
  · by_cases rendering : m.shared.handoff = .rendering
    · exact .inl (by simp [shared, rendering])
    · exact .inr (by simp [shared, rendering])
  · intro now _ _
    left
    simpa [shared, Session.isCancelled_eq_true_iff] using now

end Booked

/-- What the journal tells of the session and its thread. -/
structure Telling (m : Machine σ) (j : Journal) : Prop where
  dead : .shutDown ∈ j.entries → m.shared.isDead = true
  gone : .exited ∈ j.entries → m.phase = .gone
  begun : m.phase = .absent → Untaken j.entries

/-- A release on a poisoned lock returns with its first wake-up, also where it would have to wait. -/
def GivesUp (m : Machine σ) : Event δ → Prop
  | .resume _ => m.poisoned = true ∧ m.shared.mustWait = true
  | _ => False

instance decidableGivesUp (m : Machine σ) : (e : Event δ) → Decidable (GivesUp m e)
  | .resume _ => inferInstanceAs (Decidable (_ ∧ _))
  | .setState _ _ | .acquire | .release _ _ | .reallocate _ | .shutdown | .work | .join | .relinquish
  | .strayWakeRender | .strayWakeCaller _ | .outside _ => .isFalse id

variable [Renderer σ] [Display δ] {m : Machine σ} {d : δ} {j : Journal}

theorem step_preserves_telling {e : Event δ} {c : Machine σ × δ} (life : Lifetime m)
    (h : Telling m j) (move : Move m d e c) : Telling c.1 (j.noted m d e) := by
  obtain ⟨more, entries, stems⟩ := j.grows_noted m d e
  constructor
  · rw [entries]
    intro told
    rcases List.mem_append.mp told with now | before
    · obtain rfl : e = .shutdown := stems _ now
      cases move with
      | shutdownAgain dead => exact dead
      | shutdownRunning | shutdownHalted => rfl
    · exact step_keeps_dead (h.dead before) move
  · rw [entries]
    intro told
    rcases List.mem_append.mp told with now | before
    · obtain ⟨rfl, crashed, here⟩ := stems _ now
      cases move <;> simp_all [wakeAll, Phase.notified]
    · exact step_keeps_gone life (h.gone before) move
  · rw [entries]
    intro absent owner requested told
    rcases List.mem_append.mp told with now | before
    · have here : m.phase = .seeking := stems _ now
      exact step_keeps_begun (by simp [here]) move absent
    · by_cases unbegun : m.phase = .absent
      · exact h.begun unbegun owner requested before
      · exact step_keeps_begun unbegun move absent

theorem step_preserves_booked {e : Event δ} {c : Machine σ × δ} (life : Lifetime m)
    (passing : Passing m) (telling : Telling m j) (h : Booked m j) (move : Move m d e c) :
    Booked c.1 (j.noted m d e) := by
  cases move with
  | requestRefused | acquireRefused | acquire | reallocateRefused | reallocate | join | relinquish
  | outside => exact { h with }
  | request wanted spawn alive legal keeps =>
    have stays := Session.isDead_request alive legal
    exact h.quiet rfl rfl rfl (by simp only [Session.isCancelled, stays]) (.inl rfl)
  | start _ _ _ _ _ present | startRefused _ _ _ _ _ _ present
  | startCrashed _ _ _ _ _ _ present =>
    have nobody := passing.nobody_of_renderer life present
    have absent := life.renderer_absent present
    refine h.onward (fun _ => id) (fun _ => id) (.inl rfl) ?_ (.inr (by simp [absent, Phase.isDrawing]))
    intro _ t waits
    simp [waiting, nobody] at waits
  | rejected ticket b err unused unreturned invalid =>
    rw [Journal.noted_of_invalid invalid]
    exact h.returned_at_once unused unreturned rfl rfl rfl rfl rfl
  | releasedIdle ticket b unused unreturned valid off =>
    rw [Journal.noted_of_off valid off]
    exact h.returned_at_once unused unreturned rfl rfl rfl rfl rfl
  | discarded ticket b unused unreturned valid alive hidden =>
    rw [Journal.noted_of_hidden valid alive hidden]
    exact h.returned_at_once unused unreturned rfl rfl rfl rfl rfl
  | offerRefused ticket b unused unreturned valid alive visible running occupied =>
    rw [Journal.noted_of_occupied valid alive visible running occupied]
    exact h.returned_at_once unused unreturned rfl rfl rfl rfl rfl
  | handOver ticket b unused unreturned valid alive running visible idle =>
    rw [Journal.noted_of_idle valid alive visible running idle]
    have nobody : m.waiting = [] := by simp [waiting, passing.nobody_waits alive running idle]
    have undrawn := passing.undrawn_of_idle idle
    refine h.handOver ⟨m.shared.slot.live, b.layers⟩ unused unreturned nobody ?_ rfl rfl ?_
      (by simpa using undrawn)
    · simp [waiting, passing.nobody_waits alive running idle]
    · exact Session.isCancelled_eq_false alive running
  | shutdownAgain dead =>
    rw [Journal.noted_of_dead dead]
    exact h
  | shutdownRunning alive | shutdownHalted alive =>
    rw [Journal.noted_of_alive alive]
    exact h.cut (.inl rfl) (waiting_wakeAll _) rfl (.inl rfl) m.phase.notified_drawing
  | begin here | started _ _ here | startFailed _ _ _ here | startBroke _ _ here
  | recordFault _ here =>
    have noted : j.noted m d .work = j := by simp [Journal.noted, here]
    rw [noted]
    exact h.quiet rfl rfl rfl rfl (.inr rfl)
  | park here running none =>
    rw [Journal.noted_of_empty here running none]
    exact h.quiet rfl rfl rfl rfl (.inr rfl)
  | stop here halted =>
    rw [Journal.noted_of_halted here halted]
    exact h.quiet rfl rfl rfl rfl (.inr rfl)
  | take frame here running ready visible =>
    rw [Journal.noted_of_visible here running ready visible]
    refine h.take [.drawn j.offered frame.buffer (Layer.inDrawingOrder frame.layers),
      .taken j.offered m.shared.requested] ready rfl rfl rfl rfl rfl rfl ?_ ?_ ?_ (by simp) (by simp)
    · simp [Entry.ticket?]
    · intro t owner handed untaken
      rw [owner]
      exact h.sound.draw handed untaken visible frame.buffer
    · rintro _ ⟨⟩
      simp
  | skip frame here running ready hidden =>
    rw [Journal.noted_of_skip here running ready hidden]
    refine h.take [.taken j.offered m.shared.requested] ready rfl rfl rfl rfl rfl rfl ?_ ?_ (by simp)
      (by simp) ?_
    · simp [Entry.ticket?]
    · intro t owner handed untaken
      rw [owner]
      exact h.sound.take handed untaken m.shared.requested
    · rintro _ ⟨⟩ t owner
      exact .discarded m.shared.requested (by simp [owner]) hidden
  | composed frame renderer here reply =>
    rw [Journal.noted_of_composing here reply]
    obtain ⟨drawn, unanswered⟩ := h.composing frame here
    refine h.write_drawing passing (by simp [here, Phase.isDrawing]) rfl rfl rfl
      ⟨⟨_, _, drawn⟩, unanswered⟩ rfl ⟨_, drawn, rfl⟩ (by simp) ?_ (by simp)
    rintro _ ⟨⟩
    refine ⟨⟨_, List.mem_cons_of_mem _ drawn⟩, List.mem_cons_self, fun f reply mem => ?_⟩
    simp only [List.mem_cons, reduceCtorEq, false_or] at mem
    exact unanswered _ (h.sound.composed_of_shown mem)
  | composeFailed frame renderer reason here reply =>
    rw [Journal.noted_of_composing here reply]
    obtain ⟨drawn, unanswered⟩ := h.composing frame here
    obtain ⟨t, _, owner, _⟩ := h.sound.handed_of_drawn drawn
    refine h.write_drawing passing (by simp [here, Phase.isDrawing]) rfl rfl rfl
      ⟨⟨_, _, drawn⟩, unanswered⟩ rfl ⟨_, drawn, rfl⟩ (by simp) (by simp) ?_
    rintro _ ⟨⟩
    exact ⟨t, owner, .composeFailed reason (by simp [owner])⟩
  | composeBroke frame renderer here reply =>
    rw [Journal.noted_of_composing here reply]
    obtain ⟨drawn, unanswered⟩ := h.composing frame here
    exact h.write_drawing passing (by simp [here, Phase.isDrawing]) rfl rfl rfl
      ⟨⟨_, _, drawn⟩, unanswered⟩ rfl ⟨_, drawn, rfl⟩ (by simp) (by simp) (by simp)
  | presented frame d' here reply =>
    rw [Journal.noted_of_presenting here reply]
    have before := h.presenting frame here
    obtain ⟨t, _, owner, _⟩ := h.sound.handed_of_composed before.2.1
    refine h.write_drawing passing (by simp [here, Phase.isDrawing]) rfl rfl rfl
      before rfl ⟨_, before.2.1, rfl⟩ (by simp) (by simp) ?_
    rintro _ ⟨⟩
    exact ⟨t, owner, .presented frame (by simp [owner])⟩
  | presentFailed frame d' reason here reply =>
    rw [Journal.noted_of_presenting here reply]
    have before := h.presenting frame here
    obtain ⟨t, _, owner, _⟩ := h.sound.handed_of_composed before.2.1
    refine h.write_drawing passing (by simp [here, Phase.isDrawing]) rfl rfl rfl
      before rfl ⟨_, before.2.1, rfl⟩ (by simp) (by simp) ?_
    rintro _ ⟨⟩
    exact ⟨t, owner, .presentFailed reason frame (by simp [owner])⟩
  | presentBroke frame d' here reply =>
    rw [Journal.noted_of_presenting here reply]
    have before := h.presenting frame here
    exact h.write_drawing passing (by simp [here, Phase.isDrawing]) rfl rfl rfl
      before rfl ⟨_, before.2.1, rfl⟩ (by simp) (by simp) (by simp)
  | publish r here =>
    have rendering := passing.drawing_rendering (by simp [here, Phase.isDrawing])
    rw [Journal.noted_of_publishing here rendering]
    refine h.publish passing here ?_ ?_ (waiting_wakeCallers _) rfl rfl
    · exact Session.finishFrame_handoff rendering r
    · simp only [Session.isCancelled, wakeCallers, Session.finishFrame_isDead]
      rfl
  | leave crashed here =>
    rw [Journal.noted_of_leaving here]
    exact h.cut (.inr rfl) (waiting_wakeAll _) rfl (.inr rfl) (.inr rfl)
  | waitOn ticket woken must clean =>
    rw [Journal.noted_of_wait must clean]
    exact h.quiet (waiting_mark m ticket true) rfl rfl rfl (.inl rfl)
  | collect ticket woken settled =>
    rw [Journal.noted_of_settled settled]
    have waits := mem_waiting_of_mem woken
    refine h.collect waits ?_ rfl (fun _ => mem_waiting_without) rfl rfl
    cases must : m.shared.mustWait with
    | false => exact .inl (h.earned waits must)
    | true =>
      have poisoned : m.poisoned = true := by simpa [must] using settled
      have undone := ((Session.mustWait_eq_true_iff _).mp must).1
      exact .inr ⟨Session.collect_of_not_done undone, telling.begun (life.poisoned_absent poisoned)⟩
  | strayWakeRender here =>
    exact h.quiet rfl rfl rfl rfl (.inr rfl)
  | strayWakeCaller ticket parked =>
    exact h.quiet (waiting_mark m ticket false) rfl rfl rfl (.inl rfl)

/-- The calls of the render thread and the returned outcomes are all in the journal, in their order. -/
structure Recorded (m : Machine σ) (j : Journal) : Prop where
  drawn : j.entries.filterMap Entry.drawn? = m.calls.filterMap RenderCall.compose?
  shown : j.entries.filterMap Entry.shown? = m.calls.filterMap RenderCall.present?
  returned : j.entries.filterMap Entry.returned? = m.returned

theorem step_preserves_recorded (h : Recorded m j) (e : Event δ) :
    Recorded (m.next d e).1 (j.noted m d e) := by
  obtain ⟨drawn, shown, returned⟩ := h
  cases e with
  | release ticket b =>
    rcases first : m.shared.release b with ⟨outcome | _, shared⟩
    · simp only [Machine.next, Machine.release, Journal.noted, Journal.release, first]
      exact ⟨drawn, shown, congrArg ((ticket, outcome) :: ·) returned⟩
    · simp only [Machine.next, Machine.release, Journal.noted, Journal.release, first]
      exact ⟨drawn, shown, returned⟩
  | resume ticket =>
    cases waits : m.shared.mustWait && !m.poisoned with
    | true =>
      simp only [Machine.next, Machine.resume, Journal.noted, waits, if_true]
      exact ⟨drawn, shown, returned⟩
    | false =>
      simp only [Machine.next, Machine.resume, Journal.noted, waits, Bool.false_eq_true, if_false]
      exact ⟨drawn, shown, congrArg ((ticket, m.shared.collect.1) :: ·) returned⟩
  | shutdown =>
    cases dead : m.shared.isDead with
    | true =>
      simp only [Machine.next, Machine.shutdown, Session.beginShutdown?, Journal.noted, dead, if_true]
      exact ⟨drawn, shown, returned⟩
    | false =>
      simp only [Machine.next, Machine.shutdown, Session.beginShutdown?, Journal.noted, dead,
        Bool.false_eq_true, if_false]
      exact ⟨drawn, shown, returned⟩
  | work =>
    cases here : m.phase with
    | seeking =>
      rcases found : m.shared.nextFrame with ⟨_ | _ | ⟨f, requested⟩, shared⟩
      · simp only [Machine.next, Machine.work, Journal.noted, Journal.take, here, found]
        exact ⟨drawn, shown, returned⟩
      · simp only [Machine.next, Machine.work, Journal.noted, Journal.take, here, found]
        exact ⟨drawn, shown, returned⟩
      · cases visible : requested.isVisible with
        | true =>
          simp only [Machine.next, Machine.work, Journal.noted, Journal.take, here, found, visible,
            if_true]
          exact ⟨congrArg ((f.buffer, Layer.inDrawingOrder f.layers) :: ·) drawn, shown, returned⟩
        | false =>
          simp only [Machine.next, Machine.work, Journal.noted, Journal.take, here, found, visible,
            Bool.false_eq_true, if_false]
          exact ⟨drawn, shown, returned⟩
    | composing f =>
      rcases reply : Renderer.compose f.buffer f.layers m.renderer with ⟨_ | reason | _, renderer⟩
      all_goals
        simp only [Machine.next, Machine.work, Journal.noted, here, reply]
        exact ⟨drawn, shown, returned⟩
    | presenting f =>
      simp only [Machine.next, Machine.work, Journal.noted, here]
      exact ⟨drawn, congrArg (f :: ·) shown, returned⟩
    | publishing r =>
      cases handoff : m.shared.handoff <;>
        simp only [Machine.next, Machine.work, Journal.noted, Journal.giveBack, here, handoff] <;>
        exact ⟨drawn, shown, returned⟩
    | _ =>
      simp only [Machine.next, Machine.work, Journal.noted, here]
      exact ⟨drawn, shown, returned⟩
  | _ => exact ⟨drawn, shown, returned⟩

theorem suffix_run (c : (Machine σ × δ) × Journal) (es : List (Event δ)) :
    c.2.entries <:+ ((journaled σ δ).run c es).2.entries := by
  induction es generalizing c with
  | nil => exact List.suffix_rfl
  | cons e es ih => exact (Journal.suffix_noted c.1.1 c.1.2 e c.2).trans (ih ((journaled σ δ).next c e))

structure Followed (c : (Machine σ × δ) × Journal) : Prop where
  life : Lifetime c.1.1
  passing : Passing c.1.1
  booked : Booked c.1.1 c.2
  telling : Telling c.1.1 c.2
  recorded : Recorded c.1.1 c.2

theorem Followed.initial {ρ ω : Type} (info : DisplayInfo) (resource : UInt64) (shape : BufferShape)
    (renderer : ρ) (d : ω) : Followed ((Machine.fresh info resource shape renderer, d), {}) :=
  ⟨Lifetime.initial info resource shape renderer, Passing.initial info resource shape renderer,
    Booked.initial info resource shape renderer, ⟨by simp, by simp, by simp [Untaken]⟩, ⟨rfl, rfl, rfl⟩⟩

theorem step_preserves_followed {c : (Machine σ × δ) × Journal} {e : Event δ} (h : Followed c)
    (enabled : (journaled σ δ).Enabled c e) : Followed ((journaled σ δ).next c e) := by
  have move := next_move c.1.1 c.1.2 e enabled.1
  exact ⟨step_preserves_lifetime h.life move, step_preserves_passing h.life h.passing move,
    step_preserves_booked h.life h.passing h.telling h.booked move,
    step_preserves_telling h.life h.telling move, step_preserves_recorded h.recorded e⟩

theorem trace_preserves_followed {c : (Machine σ × δ) × Journal} {es : List (Event δ)} (h : Followed c)
    (valid : (journaled σ δ).Valid c es) : Followed ((journaled σ δ).run c es) :=
  System.Reachable.invariant ⟨es, valid, rfl⟩ h fun _ _ _ followed enabled =>
    step_preserves_followed followed enabled

theorem reachable_followed (info : DisplayInfo) (resource : UInt64) (shape : BufferShape)
    (renderer : σ) (d : δ) {c : (Machine σ × δ) × Journal}
    (h : (journaled σ δ).Reachable ((Machine.fresh info resource shape renderer, d), {}) c) :
    Followed c :=
  h.invariant (Followed.initial info resource shape renderer d) fun _ _ _ followed enabled =>
    step_preserves_followed followed enabled

omit [Renderer σ] [Display δ] in
/-- There was neither a shutdown nor an exit on a poisoned lock where a caller would have to wait, so
nothing has cut it off. -/
theorem Followed.not_earned {c : (Machine σ × δ) × Journal} (h : Followed c)
    (poisoned : c.1.1.poisoned = true) (must : c.1.1.shared.mustWait = true) {ticket : Nat} :
    ¬ Earned c.2.entries ticket c.1.1.shared.collect.1 := by
  obtain ⟨undone, alive, _⟩ := (Session.mustWait_eq_true_iff _).mp must
  rw [Session.collect_of_not_done undone]
  refine not_earned_of_uncut ?_ ?_
  · intro told
    have dead := h.telling.dead told
    simp [alive] at dead
  · intro told
    have gone := h.telling.gone told
    simp [h.life.poisoned_absent poisoned] at gone

/-- What is new in the journal is earned exactly if nobody gives up. -/
theorem step_earns_iff {c : (Machine σ × δ) × Journal} {e : Event δ} (h : Followed c)
    (enabled : (journaled σ δ).Enabled c e) :
    AllEarned ((journaled σ δ).next c e).2.entries ↔ AllEarned c.2.entries ∧ ¬ GivesUp c.1.1 e := by
  obtain ⟨⟨m, d⟩, j⟩ := c
  change AllEarned (j.noted m d e).entries ↔ AllEarned j.entries ∧ ¬ GivesUp m e
  have booked : Booked m j := h.booked
  cases e with
  | resume ticket =>
    have waits : ticket ∈ m.waiting :=
      mem_waiting_of_mem (mem_waiters_of_hasWaiter (by exact enabled.1))
    by_cases parks : m.shared.mustWait = true ∧ m.poisoned = false
    · rw [Journal.noted_of_wait parks.1 parks.2]
      simp [GivesUp, parks.2]
    · have settled : m.shared.mustWait = false ∨ m.poisoned = true := by
        cases must : m.shared.mustWait <;> simp_all
      rw [Journal.noted_of_settled settled]
      refine AllEarned.cons_iff.trans (and_congr_right fun _ => ?_)
      cases must : m.shared.mustWait with
      | false =>
        have earned := booked.earned waits must
        simp only [GivesUp, must, Bool.false_eq_true, and_false, not_false_iff, iff_true]
        rintro t outcome ⟨⟩ _
        exact earned
      | true =>
        have poisoned : m.poisoned = true := by simpa [must] using settled
        simp only [GivesUp, must, poisoned, and_self, not_true_eq_false, iff_false]
        intro all
        exact h.not_earned poisoned must (all ticket _ rfl (booked.handed ticket waits))
  | release ticket b =>
    have enabled : m.Enabled (.release ticket b : Event δ) := enabled.1
    obtain ⟨unused, unreturned⟩ := unused_of_enabled enabled
    have fresh := booked.fresh unused unreturned
    simp only [GivesUp, not_false_iff, and_true]
    cases first : (m.shared.release b).1 with
    | waiting =>
      simp only [Journal.noted, Journal.release, first]
      refine AllEarned.cons_iff.trans (and_iff_left ?_)
      rintro t outcome ⟨⟩
    | returned outcome =>
      simp only [Journal.noted, Journal.release, first]
      refine AllEarned.cons_iff.trans (and_iff_left ?_)
      rintro t outcome ⟨⟩ ⟨handed, mem⟩
      exact absurd rfl (fresh _ mem)
  | _ =>
    obtain ⟨more, entries, stems⟩ := j.grows_noted m d _
    rw [entries]
    simp only [GivesUp, not_false_iff, and_true]
    refine AllEarned.append_iff fun t outcome mem => ?_
    simpa [Journal.Stems] using stems _ mem

theorem trace_earns_iff {c : (Machine σ × δ) × Journal} {es : List (Event δ)} (h : Followed c)
    (valid : (journaled σ δ).Valid c es) : AllEarned ((journaled σ δ).run c es).2.entries ↔
      AllEarned c.2.entries ∧ (journaled σ δ).Avoids (fun c e => GivesUp c.1.1 e) c es := by
  induction es generalizing c with
  | nil => simp [System.Avoids]
  | cons e es ih =>
    rw [System.run_cons, ih (step_preserves_followed h valid.1) valid.2, step_earns_iff h valid.1,
      and_assoc]
    rfl

theorem avoids_givesUp {c : (Machine σ × δ) × Journal} {es : List (Event δ)}
    (clean : c.1.1.poisoned = false) (valid : (journaled σ δ).Valid c es)
    (returns : ∀ e ∈ es, e.spawnReturns = true) :
    (journaled σ δ).Avoids (fun c e => GivesUp c.1.1 e) c es := by
  induction es generalizing c with
  | nil => trivial
  | cons e es ih =>
    have first := returns e List.mem_cons_self
    have clean' := step_keeps_clean clean first (next_move c.1.1 c.1.2 e valid.1.1)
    refine ⟨?_, ih clean' valid.2 fun f hf => returns f (List.mem_cons_of_mem e hf)⟩
    cases e <;> simp [GivesUp, clean]

/-- At most one release waits. Frames are drawn at most once and as they were handed over, in drawing
order, and a release that was refused has no frame. A release that waited returns what became of its own
frame, or that it was cut off, exactly as long as none gives up on a poisoned lock. One that does returns
that the session was shut down, and no frame was ever taken before. Nobody gives up as long as creating
the thread does not crash. -/
theorem outcomes_are_own_iff (info : DisplayInfo) (resource : UInt64) (shape : BufferShape)
    (renderer : σ) (d : δ) {es : List (Event δ)}
    (valid : (journaled σ δ).Valid ((Machine.fresh info resource shape renderer, d), {}) es) :
    let c := (journaled σ δ).run ((Machine.fresh info resource shape renderer, d), {}) es
    c.1.1.waiters.length ≤ 1 ∧ Recorded c.1.1 c.2 ∧
    (∀ newer o buffer layers older, c.2.entries = newer ++ .drawn o buffer layers :: older →
      ∃ t handed, o = some t ∧ .handedOver t handed ∈ older ∧
        (∀ handed', .handedOver t handed' ∈ c.2.entries → handed' = handed) ∧
        layers.Perm handed ∧ layers.Pairwise (·.zOrder ≤ ·.zOrder) ∧
        (∀ z, layers.filter (·.zOrder = z) = handed.filter (·.zOrder = z)) ∧
        ∀ buffer layers, .drawn o buffer layers ∉ older) ∧
    (∀ t e, .returned t (.error e) ∈ c.2.entries →
      (∃ old live, e = .staleBuffer old live) ∨ (∃ reason, e = .invalidState reason) →
        (∀ buffer layers, .drawn (some t) buffer layers ∉ c.2.entries) ∧
          ∀ frame reply, .shown (some t) frame reply ∉ c.2.entries) ∧
    (∀ newer t outcome older, c.2.entries = newer ++ .returned t outcome :: older →
      (∃ handed, .handedOver t handed ∈ older) →
        Earned older t outcome ∨ outcome = .error .shutDown ∧ Untaken older) ∧
    (AllEarned c.2.entries ↔ (journaled σ δ).Avoids (fun c e => GivesUp c.1.1 e)
      ((Machine.fresh info resource shape renderer, d), {}) es) ∧
    ((∀ e ∈ es, e.spawnReturns = true) → AllEarned c.2.entries) := by
  intro c
  have initial := Followed.initial info resource shape renderer d
  have followed : Followed c := trace_preserves_followed initial valid
  have sound := followed.booked.sound
  have earns : AllEarned c.2.entries ↔ (journaled σ δ).Avoids (fun c e => GivesUp c.1.1 e)
      ((Machine.fresh info resource shape renderer, d), {}) es :=
    (trace_earns_iff initial valid).trans (and_iff_right (by simp [AllEarned]))
  refine ⟨followed.passing.waiting_one, followed.recorded, ?_, ?_, ?_, earns, ?_⟩
  · intro newer o buffer layers older entries
    rw [entries] at sound
    obtain ⟨⟨t, handed, owner, mem, sorted⟩, _, once⟩ := sound.of_append.1
    subst sorted
    refine ⟨t, handed, owner, mem, fun handed' mem' => ?_, Layer.inDrawingOrder_perm handed,
      Layer.inDrawingOrder_sorted handed, Layer.inDrawingOrder_stable handed, once⟩
    exact sound.handed_unique (entries ▸ mem') (by simp [mem])
  · intro t e returned refused
    have idle : ∀ handed, .handedOver t handed ∉ c.2.entries := by
      refine fun handed => sound.unhanded_of_refused returned ?_ handed
      rcases refused with ⟨old, live, rfl⟩ | ⟨reason, rfl⟩ <;> rfl
    constructor
    · intro buffer layers drawn
      obtain ⟨t', handed, owner, mem⟩ := sound.handed_of_drawn drawn
      cases owner
      exact idle handed mem
    · intro frame reply shown
      obtain ⟨t', handed, owner, mem⟩ := sound.handed_of_composed (sound.composed_of_shown shown)
      cases owner
      exact idle handed mem
  · rintro newer t outcome older entries ⟨handed, mem⟩
    rw [entries] at sound
    rcases sound.of_append.1 with fresh | ⟨_, granted⟩
    · exact absurd rfl (fresh _ mem)
    · exact granted
  · intro returns
    exact earns.mpr (avoids_givesUp rfl valid returns)

/-- The display is hidden before the frame is taken, and the release that waited returns without an
error. -/
theorem outcomes_are_own_hidden :
    let shape : BufferShape := ⟨4, 2, 1, .rgba8888, .none, 4⟩
    let c₀ : (Machine Rehearsal × HeadlessDisplay) × Journal :=
      ((Machine.fresh ⟨1, "panel", 4, 2, 0⟩ 1 shape {}, {}), {})
    let es : List (Event HeadlessDisplay) :=
      [.setState .visible .started, .acquire, .release 0 ⟨shape, 1, 1, []⟩,
        .setState .notVisible .started, .work, .work, .work, .work, .resume 0]
    (journaled Rehearsal HeadlessDisplay).Valid c₀ es ∧
      (journaled Rehearsal HeadlessDisplay).Avoids (fun c e => GivesUp c.1.1 e) c₀ es ∧
      Earned [.taken (some 0) .notVisible, .handedOver 0 []] 0 (.ok ()) := by
  intro shape c₀ es
  have valid : (journaled Rehearsal HeadlessDisplay).Valid c₀ es := by decide
  have entries : ((journaled Rehearsal HeadlessDisplay).run c₀ es).2.entries =
      [.returned 0 (.ok ()), .taken (some 0) .notVisible, .handedOver 0 []] := by decide
  obtain ⟨_, _, _, _, _, earns, returns⟩ := outcomes_are_own_iff _ _ _ _ _ valid
  have earned := returns (by simp [es, Event.spawnReturns])
  exact ⟨valid, earns.mp earned, earned [] 0 (.ok ()) _ entries ⟨[], by simp⟩⟩

/-- Creating the thread crashes, the session is used on, and the release that waits wakes up for no
reason. It returns that the session was shut down, which it was not, and no thread has left. -/
theorem waiting_release_gives_up :
    let shape : BufferShape := ⟨4, 2, 1, .rgba8888, .none, 4⟩
    let c₀ : (Machine Rehearsal × HeadlessDisplay) × Journal :=
      ((Machine.fresh ⟨1, "panel", 4, 2, 0⟩ 1 shape {}, {}), {})
    let es : List (Event HeadlessDisplay) :=
      [.setState .visible (.crashed (.nullInThreadName "a\x00b")), .setState .visible .started, .acquire,
        .release 0 ⟨shape, 1, 1, []⟩, .strayWakeCaller 0, .resume 0]
    let c := (journaled Rehearsal HeadlessDisplay).run c₀ es
    (journaled Rehearsal HeadlessDisplay).Valid c₀ es ∧
      c.1.1.returned = [(0, .error .shutDown)] ∧ c.1.1.shared.isDead = false ∧
      c.1.1.shared.thread = .running ∧
      c.2.entries = [.returned 0 (.error .shutDown), .handedOver 0 []] ∧
      ¬ Earned [.handedOver 0 []] 0 (.error .shutDown) :=
  ⟨by decide, by decide, by decide, by decide, by decide, not_earned_of_uncut (by simp) (by simp)⟩

end DisplaySurface.Machine
