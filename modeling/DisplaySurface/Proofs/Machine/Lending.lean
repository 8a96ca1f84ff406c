import DisplaySurface.Bench.Rehearsal
import DisplaySurface.Proofs.Machine.Passing
import Mathlib

/-!
Who has the target buffer. A ledger beside the session notes which checkouts are out and with which one
each release waits. Callers return nothing but what they were lent; what they forget stays out.
-/

namespace DisplaySurface

/-- `lent` are the checkouts that were not returned, `asked` those of the releases that wait. -/
structure Ledger where
  lent : List Checkout := []
  asked : List (Nat × Checkout) := []

namespace Ledger

variable {σ δ : Type}

def noted (m : Machine σ) (e : Event δ) (waiting : List Nat) (l : Ledger) : Ledger where
  lent := match e with
    | .acquire => match m.acquire.1 with
      | .ok b => b :: l.lent
      | .error _ => l.lent
    | .release _ b => l.lent.erase b.blank
    | _ => l.lent
  asked := match e with
    | .release ticket b => (l.asked ++ [(ticket, b)]).filter (·.1 ∈ waiting)
    | _ => l.asked.filter (·.1 ∈ waiting)

def allows (l : Ledger) : Event δ → Prop
  | .release _ b => b.blank ∈ l.lent
  | _ => True

instance decidableAllows (l : Ledger) : (e : Event δ) → Decidable (l.allows e)
  | .release _ b => inferInstanceAs (Decidable (b.blank ∈ l.lent))
  | .setState _ _ | .acquire | .reallocate _ | .shutdown | .work | .resume _ | .join | .relinquish
  | .strayWakeRender | .strayWakeCaller _ | .outside _ => .isTrue trivial

def outstanding (l : Ledger) (live : LiveBuffer) : Nat :=
  l.lent.countP (·.fingerprint = live.fingerprint) +
    l.asked.countP (·.2.fingerprint = live.fingerprint)

end Ledger

namespace Machine

variable {σ δ : Type}

def lending (σ δ : Type) [Renderer σ] [Display δ] : System ((Machine σ × δ) × Ledger) (Event δ) :=
  (system σ δ).observed (fun c e l => l.noted c.1 e (c.1.next c.2 e).1.waiting) Ledger.allows

instance [Renderer σ] [Display δ] (c : (Machine σ × δ) × Ledger) (e : Event δ) :
    Decidable ((lending σ δ).Enabled c e) :=
  inferInstanceAs (Decidable ((system σ δ).Enabled c.1 e ∧ c.2.allows e))

/-- At most one checkout of the live buffer is out, and the slot says so. -/
def Exclusive (m : Machine σ) (l : Ledger) : Prop :=
  l.outstanding m.shared.slot.live ≤ 1 ∧
    (l.outstanding m.shared.slot.live = 1 ↔ m.shared.slot.busy = true)

/-- The event ends the wait of a release whose buffer was replaced meanwhile, while the new buffer is
out. Its check-in is then taken for that of the new buffer. -/
def TakesBack (m : Machine σ) (l : Ledger) : Event δ → Prop
  | .resume ticket => (m.shared.mustWait = false ∨ m.poisoned = true) ∧
      m.shared.slot.busy = true ∧
        ∃ a ∈ l.asked, a.1 = ticket ∧ a.2.fingerprint ≠ m.shared.slot.live.fingerprint
  | _ => False

instance (m : Machine σ) (l : Ledger) : Decidable (Exclusive m l) :=
  inferInstanceAs (Decidable (_ ∧ _))

instance decidableTakesBack (m : Machine σ) (l : Ledger) : (e : Event δ) →
    Decidable (TakesBack m l e)
  | .resume ticket =>
    inferInstanceAs (Decidable (_ ∧ _ ∧ ∃ a ∈ l.asked, a.1 = ticket ∧ a.2.fingerprint ≠ _))
  | .setState _ _ | .acquire | .release _ _ | .reallocate _ | .shutdown | .work | .join | .relinquish
  | .strayWakeRender | .strayWakeCaller _ | .outside _ => .isFalse id

structure Noted (m : Machine σ) (l : Ledger) : Prop where
  asked_waiting : l.asked.map (·.1) = m.waiting
  lent_past : ∀ b ∈ l.lent, b.fingerprint ≤ m.shared.slot.live.fingerprint
  asked_past : ∀ a ∈ l.asked, a.2.fingerprint ≤ m.shared.slot.live.fingerprint

/-- What a step is to the buffer and to those who wait. -/
inductive Trade (m m' : Machine σ) : Event δ → Prop where
  | idle (e) (quiet : ∀ ticket b, e ≠ .release ticket b)
      (refused : e = .acquire → ∃ err, m.acquire.1 = .error err)
      (parks : ∀ ticket, e = .resume ticket → m.shared.mustWait = true ∧ m.poisoned = false)
      (waiting : m'.waiting = m.waiting) (slot : m'.shared.slot = m.shared.slot) : Trade m m' e
  | lend (b) (lent : m.acquire.1 = .ok b)
      (fingerprint : b.fingerprint = m.shared.slot.live.fingerprint)
      (free : m.shared.slot.busy = false) (waiting : m'.waiting = m.waiting)
      (slot : m'.shared.slot = { m.shared.slot with busy := true }) : Trade m m' .acquire
  | reject (ticket b err) (unused : ticket ∉ m.waiting)
      (invalid : m.shared.slot.validate b = .error err) (waiting : m'.waiting = m.waiting)
      (slot : m'.shared.slot = m.shared.slot) : Trade m m' (.release ticket b)
  | accept (ticket b) (unused : ticket ∉ m.waiting) (valid : m.shared.slot.validate b = .ok ())
      (waiting : m'.waiting = m.waiting) (slot : m'.shared.slot = m.shared.slot.checkIn) :
      Trade m m' (.release ticket b)
  | handOver (ticket b) (unused : ticket ∉ m.waiting)
      (valid : m.shared.slot.validate b = .ok ()) (waiting : m'.waiting = m.waiting ++ [ticket])
      (slot : m'.shared.slot = m.shared.slot) : Trade m m' (.release ticket b)
  | replace (shape) (alive : m.shared.isDead = false) (idle : m.shared.handoff = .idle)
      (waiting : m'.waiting = m.waiting) (slot : m'.shared.slot = m.shared.slot.reallocate shape) :
      Trade m m' (.reallocate shape)
  | collect (ticket) (woken : ⟨ticket, false⟩ ∈ m.waiters)
      (settled : m.shared.mustWait = false ∨ m.poisoned = true)
      (waiting : m'.waiting = m.waiting.filter (· ≠ ticket))
      (slot : m'.shared.slot = m.shared.slot.checkIn) : Trade m m' (.resume ticket)

theorem move_trade [Renderer σ] [Display δ] {m : Machine σ} {d : δ} {e : Event δ}
    {c : Machine σ × δ} (move : Move m d e c) : Trade m c.1 e := by
  cases move with
  | requestRefused | request | start | startRefused | startCrashed | reallocateRefused
  | shutdownAgain | begin | started | startFailed | startBroke | recordFault | park | stop | take
  | skip | composed | composeFailed | composeBroke | presented | presentFailed | presentBroke | join
  | relinquish | strayWakeRender | outside =>
    refine .idle _ ?_ ?_ ?_ rfl rfl <;> simp
  | acquireRefused err refused =>
    exact .idle _ (by simp) (fun _ => ⟨err, refused⟩) (by simp) rfl rfl
  | acquire alive free =>
    refine .lend ⟨m.shared.slot.live.shape, m.shared.slot.live.handle,
      m.shared.slot.live.fingerprint, []⟩ ?_ rfl free rfl rfl
    simp [Machine.acquire, Session.acquire, Slot.checkOut, alive, free]
  | rejected ticket b err unused _ invalid => exact .reject ticket b err unused invalid rfl rfl
  | releasedIdle ticket b unused _ valid | discarded ticket b unused _ valid
  | offerRefused ticket b unused _ valid => exact .accept ticket b unused valid rfl rfl
  | handOver ticket b unused _ valid =>
    exact .handOver ticket b unused valid (by simp [waiting]) rfl
  | reallocate shape alive idle => exact .replace shape alive idle rfl rfl
  | shutdownRunning | shutdownHalted =>
    exact .idle _ (by simp) (by simp) (by simp) (waiting_wakeAll _) rfl
  | publish => exact .idle _ (by simp) (by simp) (by simp) (waiting_wakeCallers _) rfl
  | leave =>
    exact .idle _ (by simp) (by simp) (by simp) (waiting_wakeAll _) (by simp [wakeAll])
  | waitOn ticket woken must clean =>
    exact .idle _ (by simp) (by simp) (fun _ _ => ⟨must, clean⟩) (waiting_mark m ticket true) rfl
  | strayWakeCaller ticket =>
    exact .idle _ (by simp) (by simp) (by simp) (waiting_mark m ticket false) rfl
  | collect ticket woken settled =>
    refine .collect ticket woken settled ?_ (by simp)
    simp [waiting, List.filter_map, Function.comp_def]

theorem move_keeps_slot [Renderer σ] [Display δ] {m : Machine σ} {d : δ} {e : Event δ}
    {c : Machine σ × δ} (move : Move m d e c)
    (other : ∀ shape, e ≠ .reallocate shape) : ∃ busy, c.1.shared.slot = { m.shared.slot with busy } := by
  cases move_trade move with
  | replace shape => exact absurd rfl (other shape)
  | idle _ _ _ _ _ slot | lend _ _ _ _ _ slot | reject _ _ _ _ _ _ slot | accept _ _ _ _ _ slot
  | handOver _ _ _ _ _ slot | collect _ _ _ _ slot => exact ⟨_, slot⟩

section Noting

variable {m : Machine σ} {l : Ledger}

theorem filter_asked (h : l.asked.map (·.1) = m.waiting) :
    l.asked.filter (·.1 ∈ m.waiting) = l.asked := by
  rw [List.filter_eq_self]
  intro a ha
  simpa [← h] using ⟨a.2, ha⟩

theorem noted_idle {e : Event δ} (h : l.asked.map (·.1) = m.waiting)
    (quiet : ∀ ticket b, e ≠ .release ticket b)
    (refused : e = .acquire → ∃ err, m.acquire.1 = .error err) : l.noted m e m.waiting = l := by
  cases e with
  | release ticket b => exact absurd rfl (quiet ticket b)
  | acquire =>
    obtain ⟨err, herr⟩ := refused rfl
    simp [Ledger.noted, herr, filter_asked h]
  | _ => simp [Ledger.noted, filter_asked h]

theorem noted_lend {b : Checkout} (h : l.asked.map (·.1) = m.waiting)
    (lent : m.acquire.1 = .ok b) :
    l.noted m (.acquire : Event δ) m.waiting = { l with lent := b :: l.lent } := by
  simp [Ledger.noted, lent, filter_asked h]

theorem noted_return {ticket : Nat} {b : Checkout} (h : l.asked.map (·.1) = m.waiting)
    (unused : ticket ∉ m.waiting) : l.noted m (.release ticket b : Event δ) m.waiting =
      { l with lent := l.lent.erase b.blank } := by
  simp [Ledger.noted, List.filter_append, filter_asked h, unused]

theorem noted_handOver {ticket : Nat} {b : Checkout} (h : l.asked.map (·.1) = m.waiting) :
    l.noted m (.release ticket b : Event δ) (m.waiting ++ [ticket]) =
      { lent := l.lent.erase b.blank, asked := l.asked ++ [(ticket, b)] } := by
  have all : l.asked.filter (·.1 ∈ m.waiting ++ [ticket]) = l.asked := by
    rw [List.filter_eq_self]
    intro a ha
    have known : a.1 ∈ m.waiting := h ▸ List.mem_map_of_mem ha
    simp [known]
  simp only [Ledger.noted, List.filter_append, all]
  simp

theorem noted_collect {ticket : Nat} (h : l.asked.map (·.1) = m.waiting) :
    l.noted m (.resume ticket : Event δ) (m.waiting.filter (· ≠ ticket)) =
      { l with asked := l.asked.filter (·.1 ≠ ticket) } := by
  have same : l.asked.filter (·.1 ∈ m.waiting.filter (· ≠ ticket)) =
      l.asked.filter (·.1 ≠ ticket) := by
    refine List.filter_congr fun a ha => ?_
    have known : a.1 ∈ m.waiting := h ▸ List.mem_map_of_mem ha
    simp [known]
  simp only [Ledger.noted, same]

end Noting

theorem trade_preserves_noted {m m' : Machine σ} {l : Ledger} {e : Event δ} (h : Noted m l)
    (trade : Trade m m' e) : Noted m' (l.noted m e m'.waiting) := by
  cases trade with
  | idle e quiet refused parks waiting slot =>
    rw [waiting, noted_idle h.asked_waiting quiet refused]
    exact ⟨waiting ▸ h.asked_waiting, slot ▸ h.lent_past, slot ▸ h.asked_past⟩
  | lend b lent fingerprint free waiting slot =>
    rw [waiting, noted_lend h.asked_waiting lent]
    refine ⟨waiting ▸ h.asked_waiting, ?_, slot ▸ h.asked_past⟩
    intro b' hb'
    rw [slot]
    rcases List.mem_cons.mp hb' with rfl | hb'
    · exact Nat.le_of_eq fingerprint
    · exact h.lent_past b' hb'
  | reject ticket b _ unused _ waiting slot | accept ticket b unused _ waiting slot =>
    rw [waiting, noted_return h.asked_waiting unused]
    refine ⟨waiting ▸ h.asked_waiting, ?_, slot ▸ h.asked_past⟩
    intro b' hb'
    rw [slot]
    exact h.lent_past b' (List.mem_of_mem_erase hb')
  | handOver ticket b unused valid waiting slot =>
    rw [waiting, noted_handOver h.asked_waiting]
    refine ⟨?_, ?_, ?_⟩
    · simp [waiting, h.asked_waiting]
    · intro b' hb'
      rw [slot]
      exact h.lent_past b' (List.mem_of_mem_erase hb')
    · intro a ha
      rw [slot]
      rcases List.mem_append.mp ha with ha | ha
      · exact h.asked_past a ha
      · rw [List.mem_singleton.mp ha]
        exact Nat.le_of_eq ((Slot.validate_eq_ok_iff _ _).mp valid).1
  | replace shape alive idle waiting slot =>
    rw [waiting, noted_idle (e := (.reallocate shape : Event δ)) h.asked_waiting (by simp) (by simp)]
    have next : m'.shared.slot.live.fingerprint = m.shared.slot.live.fingerprint + 1 := by
      rw [slot]
      rfl
    refine ⟨waiting ▸ h.asked_waiting, ?_, ?_⟩
    · intro b hb
      have past := h.lent_past b hb
      omega
    · intro a ha
      have past := h.asked_past a ha
      omega
  | collect ticket woken settled waiting slot =>
    rw [waiting, noted_collect h.asked_waiting]
    refine ⟨?_, slot ▸ h.lent_past, ?_⟩
    · rw [waiting, ← h.asked_waiting, List.filter_map]
      rfl
    · intro a ha
      rw [slot]
      exact h.asked_past a (List.mem_filter.mp ha).1

section Counting

variable {m m' : Machine σ} {l : Ledger} {b : Checkout} {live : LiveBuffer}

theorem outstanding_erase_live (had : b.blank ∈ l.lent) (current : b.fingerprint = live.fingerprint) :
    ({ l with lent := l.lent.erase b.blank } : Ledger).outstanding live + 1 = l.outstanding live := by
  have one : 0 < l.lent.countP (·.fingerprint = live.fingerprint) :=
    List.countP_pos_iff.mpr ⟨_, had, decide_eq_true current⟩
  have fewer := List.countP_erase (·.fingerprint = live.fingerprint) l.lent b.blank
  simp only [had, Checkout.blank_fingerprint, current, decide_true, and_self, if_true] at fewer
  simp only [Ledger.outstanding]
  omega

theorem outstanding_erase_stale (stale : b.fingerprint ≠ live.fingerprint) :
    ({ l with lent := l.lent.erase b.blank } : Ledger).outstanding live = l.outstanding live := by
  have same := List.countP_erase (·.fingerprint = live.fingerprint) l.lent b.blank
  simp only [Checkout.blank_fingerprint, stale, decide_false, Bool.false_eq_true, and_false,
    if_false, Nat.sub_zero] at same
  simp only [Ledger.outstanding, same]

theorem outstanding_pos_of_lent (had : b ∈ l.lent) (current : b.fingerprint = live.fingerprint) :
    0 < l.outstanding live := by
  have one : 0 < l.lent.countP (·.fingerprint = live.fingerprint) :=
    List.countP_pos_iff.mpr ⟨b, had, decide_eq_true current⟩
  exact Nat.lt_of_lt_of_le one (Nat.le_add_right _ _)

theorem outstanding_lend (current : b.fingerprint = live.fingerprint) :
    ({ l with lent := b :: l.lent } : Ledger).outstanding live = l.outstanding live + 1 := by
  have more := List.countP_cons_of_pos (p := fun b : Checkout => b.fingerprint = live.fingerprint)
    (l := l.lent) (decide_eq_true current)
  simp only [Ledger.outstanding, more]
  omega

theorem outstanding_handOver (ticket : Nat) (had : b.blank ∈ l.lent)
    (current : b.fingerprint = live.fingerprint) :
    ({ lent := l.lent.erase b.blank, asked := l.asked ++ [(ticket, b)] } : Ledger).outstanding live =
      l.outstanding live := by
  have fewer := outstanding_erase_live had current
  have counted : [(ticket, b)].countP (·.2.fingerprint = live.fingerprint) = 1 := by simp [current]
  simp only [Ledger.outstanding, List.countP_append] at fewer ⊢
  omega

theorem outstanding_collect {ticket : Nat} (live : LiveBuffer) (asked : l.asked = [(ticket, b)]) :
    ({ l with asked := [] } : Ledger).outstanding live +
        (if b.fingerprint = live.fingerprint then 1 else 0) = l.outstanding live := by
  simp only [Ledger.outstanding, asked, List.countP_singleton, List.countP_nil, decide_eq_true_eq]
  omega

theorem outstanding_reallocate (noted : Noted m l) (shape : BufferShape) :
    l.outstanding (m.shared.slot.reallocate shape).live = 0 := by
  have next : (m.shared.slot.reallocate shape).live.fingerprint =
      m.shared.slot.live.fingerprint + 1 := rfl
  have lent : l.lent.countP (·.fingerprint = m.shared.slot.live.fingerprint + 1) = 0 := by
    rw [List.countP_eq_zero]
    intro b hb
    have past := noted.lent_past b hb
    simp only [decide_eq_true_eq]
    omega
  have asked : l.asked.countP (·.2.fingerprint = m.shared.slot.live.fingerprint + 1) = 0 := by
    rw [List.countP_eq_zero]
    intro a ha
    have past := noted.asked_past a ha
    simp only [decide_eq_true_eq]
    omega
  simp [Ledger.outstanding, next, lent, asked]

end Counting

theorem asked_eq_of_woken {m : Machine σ} {l : Ledger} {ticket : Nat} (passing : Passing m)
    (noted : Noted m l) (woken : ⟨ticket, false⟩ ∈ m.waiters) : ∃ b, l.asked = [(ticket, b)] := by
  have alone : l.asked.map (·.1) = [ticket] := by
    rw [noted.asked_waiting, waiting, passing.waiting_eq woken]
    rfl
  obtain ⟨a, one⟩ := List.length_eq_one_iff.mp (by simpa using congrArg List.length alone)
  have its : a.1 = ticket := by simpa [one] using alone
  exact ⟨a.2, by rw [one, ← its]⟩

theorem exclusive_iff {m : Machine σ} {l : Ledger} {s : Slot} (slot : m.shared.slot = s) :
    Exclusive m l ↔ l.outstanding s.live ≤ 1 ∧ (l.outstanding s.live = 1 ↔ s.busy = true) := by
  rw [Exclusive, slot]

theorem exclusive_checkIn_iff {m : Machine σ} {l : Ledger} {s : Slot}
    (slot : m.shared.slot = s.checkIn) : Exclusive m l ↔ l.outstanding s.live = 0 := by
  have same : s.checkIn.live = s.live := rfl
  have free : s.checkIn.busy = false := rfl
  rw [exclusive_iff slot, same, free]
  simp only [Bool.false_eq_true, iff_false]
  omega

/-- The check-in of a release that waited is the last word on its own buffer, and wrong about any
newer one. -/
theorem collect_exclusive_iff {m m' : Machine σ} {l : Ledger} {ticket : Nat} {b : Checkout}
    (asked : l.asked = [(ticket, b)]) (settled : m.shared.mustWait = false ∨ m.poisoned = true)
    (h : Exclusive m l) (slot : m'.shared.slot = m.shared.slot.checkIn) :
    Exclusive m' { l with asked := [] } ↔ ¬ TakesBack m l (.resume ticket : Event δ) := by
  obtain ⟨single, busy⟩ := h
  have taken : TakesBack m l (.resume ticket : Event δ) ↔
      m.shared.slot.busy = true ∧ b.fingerprint ≠ m.shared.slot.live.fingerprint := by
    simp [TakesBack, settled, asked]
  have counted := outstanding_collect m.shared.slot.live asked
  rw [exclusive_checkIn_iff slot, taken]
  by_cases current : b.fingerprint = m.shared.slot.live.fingerprint
  · -- The release had the live buffer itself, so nobody else has.
    simp only [current, if_true] at counted
    simp only [current, ne_eq, not_true_eq_false, and_false, not_false_eq_true, iff_true]
    omega
  · simp only [current, if_false, Nat.add_zero] at counted
    rw [← counted] at single busy
    simp only [ne_eq, current, not_false_eq_true, and_true, ← busy]
    omega

/-- A step keeps the checkout exclusive unless a check-in is taken for that of a newer buffer, which
never keeps it. -/
theorem trade_exclusive_iff {m m' : Machine σ} {l : Ledger} {e : Event δ} (passing : Passing m)
    (noted : Noted m l) (allowed : l.allows e) (h : Exclusive m l) (trade : Trade m m' e) :
    Exclusive m' (l.noted m e m'.waiting) ↔ ¬ TakesBack m l e := by
  have exclusive := h
  obtain ⟨single, busy⟩ := h
  cases trade with
  | idle e quiet refused parks waiting slot =>
    have kept : ¬ TakesBack m l e := by
      intro taken
      cases e with
      | resume ticket =>
        obtain ⟨must, clean⟩ := parks ticket rfl
        rcases taken.1 with settled | poisoned
        · simp [must] at settled
        · simp [clean] at poisoned
      | _ => exact taken
    rw [waiting, noted_idle noted.asked_waiting quiet refused, exclusive_iff slot]
    exact iff_of_true ⟨single, busy⟩ kept
  | lend b lent fingerprint free waiting slot =>
    have nobody : l.outstanding m.shared.slot.live = 0 := by
      by_cases one : l.outstanding m.shared.slot.live = 1
      · simp [busy.mp one] at free
      · omega
    have one := outstanding_lend (l := l) fingerprint
    rw [nobody] at one
    rw [waiting, noted_lend noted.asked_waiting lent, exclusive_iff slot]
    exact iff_of_true ⟨Nat.le_of_eq one, fun _ => rfl, fun _ => one⟩ id
  | reject ticket b err unused invalid waiting slot =>
    have stale : b.fingerprint ≠ m.shared.slot.live.fingerprint := by
      intro current
      have out : 0 < l.outstanding m.shared.slot.live := outstanding_pos_of_lent allowed current
      have valid := (Slot.validate_eq_ok_iff m.shared.slot b).mpr ⟨current, busy.mp (by omega)⟩
      simp [valid] at invalid
    rw [waiting, noted_return noted.asked_waiting unused, exclusive_iff slot,
      outstanding_erase_stale stale]
    exact iff_of_true ⟨single, busy⟩ id
  | accept ticket b unused valid waiting slot =>
    obtain ⟨current, out⟩ := (Slot.validate_eq_ok_iff _ _).mp valid
    have one := busy.mpr out
    have fewer := outstanding_erase_live allowed current
    rw [waiting, noted_return noted.asked_waiting unused, exclusive_checkIn_iff slot]
    refine iff_of_true ?_ id
    omega
  | handOver ticket b unused valid waiting slot =>
    obtain ⟨current, out⟩ := (Slot.validate_eq_ok_iff _ _).mp valid
    rw [waiting, noted_handOver noted.asked_waiting, exclusive_iff slot,
      outstanding_handOver ticket allowed current]
    exact iff_of_true ⟨single, busy⟩ id
  | replace shape alive idle waiting slot =>
    rw [waiting, noted_idle noted.asked_waiting (by simp) (by simp), exclusive_iff slot,
      outstanding_reallocate noted]
    exact iff_of_true ⟨by simp, by simp [Slot.reallocate]⟩ id
  | collect ticket woken settled waiting slot =>
    obtain ⟨b, asked⟩ := asked_eq_of_woken passing noted woken
    have gone : l.asked.filter (·.1 ≠ ticket) = [] := by simp [asked]
    rw [waiting, noted_collect noted.asked_waiting, gone]
    exact collect_exclusive_iff asked settled exclusive slot

/-- A release that waits while a frame could be offered has lost the render thread. -/
theorem gone_of_idle_wait {m : Machine σ} (life : Lifetime m) (passing : Passing m)
    (alive : m.shared.isDead = false) (idle : m.shared.handoff = .idle)
    (somebody : m.waiters ≠ []) : m.phase = .gone := by
  have cancelled : m.shared.isCancelled = true := by
    simpa [idle] using passing.waiting_cause somebody
  have halted : m.shared.thread ≠ .running := by
    simpa [Session.isCancelled_eq_true_iff, alive] using cancelled
  have stopped := life.stopped_of_halted alive halted
  have settled := life.stopped_over stopped
  cases here : m.phase with
  | absent =>
    cases poisoned : m.poisoned with
    | false => exact absurd (passing.unstarted_nobody here poisoned) somebody
    | true => exact absurd stopped (life.poisoned_recorded poisoned)
  | gone => rfl
  | _ => simp [here, Phase.isOver] at settled

structure Kept (c : (Machine σ × δ) × Ledger) : Prop where
  life : Lifetime c.1.1
  passing : Passing c.1.1
  noted : Noted c.1.1 c.2

theorem kept_initial (info : DisplayInfo) (resource : UInt64) (shape : BufferShape) (renderer : σ)
    (d : δ) : Kept ((Machine.fresh info resource shape renderer, d), {}) where
  life := Lifetime.initial info resource shape renderer
  passing := Passing.initial info resource shape renderer
  noted := ⟨rfl, by simp, by simp⟩

theorem trade_keeps_current {m m' : Machine σ} {l : Ledger} {e : Event δ} (life : Lifetime m)
    (passing : Passing m) (noted : Noted m l)
    (current : ∀ a ∈ l.asked, a.2.fingerprint = m.shared.slot.live.fingerprint)
    (trade : Trade m m' e) : (m.phase = .gone ∧ m.shared.isDead = false) ∨
      ∀ a ∈ (l.noted m e m'.waiting).asked, a.2.fingerprint = m'.shared.slot.live.fingerprint := by
  cases trade with
  | idle e quiet refused parks waiting slot =>
    rw [waiting, noted_idle noted.asked_waiting quiet refused, slot]
    exact .inr current
  | lend b lent fingerprint free waiting slot =>
    rw [waiting, noted_lend noted.asked_waiting lent, slot]
    exact .inr current
  | reject ticket b _ unused _ waiting slot | accept ticket b unused _ waiting slot =>
    rw [waiting, noted_return noted.asked_waiting unused, slot]
    exact .inr current
  | handOver ticket b unused valid waiting slot =>
    rw [waiting, noted_handOver noted.asked_waiting, slot]
    right
    intro a ha
    rcases List.mem_append.mp ha with ha | ha
    · exact current a ha
    · rw [List.mem_singleton.mp ha]
      exact ((Slot.validate_eq_ok_iff _ _).mp valid).1
  | replace shape alive idle waiting slot =>
    cases somebody : m.waiters with
    | nil =>
      have nobody : l.asked = [] := by
        simpa [Machine.waiting, somebody] using noted.asked_waiting
      simp [Ledger.noted, nobody]
    | cons w ws =>
      exact .inl ⟨gone_of_idle_wait life passing alive idle (by simp [somebody]), alive⟩
  | collect ticket woken settled waiting slot =>
    rw [waiting, noted_collect noted.asked_waiting, slot]
    right
    intro a ha
    exact current a (List.mem_filter.mp ha).1

theorem not_takesBack_of_current {m : Machine σ} {l : Ledger} {e : Event δ}
    (current : ∀ a ∈ l.asked, a.2.fingerprint = m.shared.slot.live.fingerprint) :
    ¬ TakesBack m l e := by
  intro taken
  cases e with
  | resume ticket =>
    obtain ⟨_, _, a, asked, _, stale⟩ := taken
    exact stale (current a asked)
  | _ => exact taken

variable [Renderer σ] [Display δ]

theorem step_preserves_kept {c : (Machine σ × δ) × Ledger} {e : Event δ} (h : Kept c)
    (enabled : (lending σ δ).Enabled c e) : Kept ((lending σ δ).next c e) := by
  have move := next_move c.1.1 c.1.2 e enabled.1
  exact ⟨step_preserves_lifetime h.life move, step_preserves_passing h.life h.passing move,
    trade_preserves_noted h.noted (move_trade move)⟩

/-- The checkout of the live buffer is exclusive all along a run exactly if no check-in of a release
whose buffer was replaced is taken for that of a newer one. -/
theorem exclusive_throughout_iff (info : DisplayInfo) (resource : UInt64) (shape : BufferShape)
    (renderer : σ) (d : δ) {es : List (Event δ)}
    (valid : (lending σ δ).Valid ((Machine.fresh info resource shape renderer, d), {}) es) :
    (lending σ δ).Throughout (fun c => Exclusive c.1.1 c.2)
        ((Machine.fresh info resource shape renderer, d), {}) es ↔
      (lending σ δ).Avoids (fun c e => TakesBack c.1.1 c.2 e)
        ((Machine.fresh info resource shape renderer, d), {}) es := by
  refine System.throughout_iff_avoids (I := Kept) ?_ ?_ (kept_initial _ _ _ _ _) ?_ valid
  · intro c e h enabled
    exact step_preserves_kept h enabled
  · intro c e h exclusive enabled
    have move := next_move c.1.1 c.1.2 e enabled.1
    exact trade_exclusive_iff h.passing h.noted enabled.2 exclusive (move_trade move)
  · simp [Exclusive, Ledger.outstanding, Machine.fresh, Session.new, Slot.new]

/-- The renderer cannot be started, and the release that waited returns before its buffer is replaced. -/
theorem exclusive_throughout_failed_start :
    let shape : BufferShape := ⟨4, 2, 1, .rgba8888, .none, 4⟩
    let c₀ : (Machine Rehearsal × HeadlessDisplay) × Ledger :=
      ((Machine.fresh ⟨1, "panel", 4, 2, 0⟩ 1 shape { startCue := { crash := true } }, {}), {})
    (lending Rehearsal HeadlessDisplay).Throughout (fun c => Exclusive c.1.1 c.2) c₀
      [.setState .visible .started, .acquire, .release 0 ⟨shape, 1, 1, []⟩, .work, .work, .work,
        .resume 0, .reallocate shape, .acquire] := by
  intro shape c₀
  exact (exclusive_throughout_iff _ _ _ _ _ (by decide)).mpr (by decide)

/-- The buffer is replaced and lent again before the release returns. Its check-in frees the slot, and
two callers have the new buffer. -/
theorem checkIn_frees_newer_buffer :
    let shape : BufferShape := ⟨4, 2, 1, .rgba8888, .none, 4⟩
    let c₀ : (Machine Rehearsal × HeadlessDisplay) × Ledger :=
      ((Machine.fresh ⟨1, "panel", 4, 2, 0⟩ 1 shape { startCue := { crash := true } }, {}), {})
    let es : List (Event HeadlessDisplay) :=
      [.setState .visible .started, .acquire, .release 0 ⟨shape, 1, 1, []⟩, .work, .work, .work,
        .reallocate shape, .acquire, .resume 0]
    let c := (lending Rehearsal HeadlessDisplay).run c₀ es
    let c' := (lending Rehearsal HeadlessDisplay).run c₀ (es ++ [.acquire])
    (lending Rehearsal HeadlessDisplay).Valid c₀ (es ++ [.acquire]) ∧
      c.2.outstanding c.1.1.shared.slot.live = 1 ∧ c.1.1.shared.slot.busy = false ∧
      c'.2.outstanding c'.1.1.shared.slot.live = 2 := by
  decide

def Undisturbed (m : Machine σ) (l : Ledger) : Prop :=
  m.shared.fault.isSome = true ∨
    Exclusive m l ∧ ∀ a ∈ l.asked, a.2.fingerprint = m.shared.slot.live.fingerprint

theorem step_keeps_undisturbed {c : (Machine σ × δ) × Ledger} {e : Event δ} (kept : Kept c)
    (enabled : (lending σ δ).Enabled c e) (h : Undisturbed c.1.1 c.2) :
    Undisturbed ((lending σ δ).next c e).1.1 ((lending σ δ).next c e).2 := by
  have move := next_move c.1.1 c.1.2 e enabled.1
  have trade := move_trade move
  rcases h with fault | ⟨exclusive, current⟩
  · left
    exact step_keeps_fault fault move
  · rcases trade_keeps_current kept.life kept.passing kept.noted current trade with
      ⟨gone, alive⟩ | current'
    · have fault : c.1.1.shared.fault.isSome = true := by
        simpa [alive] using kept.life.gone_reason gone
      left
      exact step_keeps_fault fault move
    · have untaken := not_takesBack_of_current (e := e) current
      right
      exact ⟨(trade_exclusive_iff kept.passing kept.noted enabled.2 exclusive trade).mpr untaken,
        current'⟩

/-- As long as there is no fault, the checkout of the live buffer is exclusive. -/
theorem exclusive_of_faultless (info : DisplayInfo) (resource : UInt64) (shape : BufferShape)
    (renderer : σ) (d : δ) {c : (Machine σ × δ) × Ledger}
    (h : (lending σ δ).Reachable ((Machine.fresh info resource shape renderer, d), {}) c)
    (sound : c.1.1.shared.fault = none) : Exclusive c.1.1 c.2 := by
  have all : Kept c ∧ Undisturbed c.1.1 c.2 := by
    refine h.invariant (I := fun c => Kept c ∧ Undisturbed c.1.1 c.2) ?_ ?_
    · refine ⟨kept_initial info resource shape renderer d, .inr ⟨?_, by simp⟩⟩
      simp [Exclusive, Ledger.outstanding, Machine.fresh, Session.new, Slot.new]
    · intro c e _ holds enabled
      exact ⟨step_preserves_kept holds.1 enabled, step_keeps_undisturbed holds.1 enabled holds.2⟩
  rcases all.2 with fault | ⟨exclusive, _⟩
  · simp [sound] at fault
  · exact exclusive

end Machine

end DisplaySurface
