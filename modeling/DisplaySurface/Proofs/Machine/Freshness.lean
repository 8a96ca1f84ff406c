import DisplaySurface.Proofs.Machine.Lending

/-!
The identities of a session's buffers. A register beside the session keeps every buffer that it had and
every checkout that it ever lent. A new buffer has a handle and a fingerprint that are greater than all
in the register, so whoever holds an older one is told so, whatever has happened since.
-/

namespace DisplaySurface

structure Register where
  issued : List LiveBuffer
  lent : List Checkout := []

namespace Register

variable {σ δ : Type}

def opened (m : Machine σ) : Register :=
  { issued := [m.shared.slot.live] }

def noted (m : Machine σ) (e : Event δ) (r : Register) : Register :=
  match e with
  | .acquire => match m.acquire.1 with
    | .ok b => { r with lent := b :: r.lent }
    | .error _ => r
  | .reallocate shape => match (m.reallocate shape).1 with
    | .ok live => { r with issued := live :: r.issued }
    | .error _ => r
  | _ => r

end Register

def LiveBuffer.checkout (b : LiveBuffer) : Checkout :=
  { shape := b.shape, handle := b.handle, fingerprint := b.fingerprint }

theorem Slot.checkOut_ok {s : Slot} {b : Checkout} (lent : s.checkOut.1 = .ok b) :
    b = s.live.checkout := by
  unfold checkOut at lent
  split at lent
  · cases lent
  · cases lent
    rfl

theorem Slot.validate_of_stale {s : Slot} {b : Checkout} (stale : b.fingerprint ≠ s.live.fingerprint) :
    s.validate b = .error (.staleBuffer b.fingerprint s.live.fingerprint) := by
  simp [validate, stale]

theorem Session.reallocate_ok {shape : BufferShape} {s : Session} {live : LiveBuffer}
    (replaced : (s.reallocate shape).1 = .ok live) : shape.check = .ok () ∧
      live = (s.slot.reallocate shape).live ∧
      (s.reallocate shape).2 = { s with slot := s.slot.reallocate shape } := by
  unfold reallocate at replaced ⊢
  by_cases dead : s.isDead = true
  · simp [dead] at replaced
  by_cases idle : s.handoff.isIdle = true
  · cases check : shape.check with
    | error e => simp [dead, idle, check] at replaced
    | ok =>
      simp only [dead, idle, check, if_false, Bool.not_true, Bool.false_eq_true] at replaced ⊢
      exact ⟨trivial, (Except.ok.inj replaced).symm, trivial⟩
  · simp [dead, idle] at replaced

namespace Machine

variable {σ δ ε : Type}

def createOn (grant : UInt64 → δ → Except ε UInt64 × δ) (info : DisplayInfo) (shape : BufferShape)
    (renderer : σ) (d : δ) : Except (ShapeError ⊕ ε) (Machine σ) × δ :=
  match shape.check with
  | .error e => (.error (.inl e), d)
  | .ok () =>
    match grant info.id d with
    | (.error e, d) => (.error (.inr e), d)
    | (.ok resource, d) => (.ok (fresh info resource shape renderer), d)

theorem create_eq_createOn (info : DisplayInfo) (shape : BufferShape) (renderer : σ)
    (d : HeadlessDisplay) : create info shape renderer d =
      let (made, d) := createOn HeadlessDisplay.acquire info shape renderer d
      (made.mapError (Sum.elim .badShape (.notAcquired info.id)), d) := by
  unfold create createOn
  cases shape.check with
  | error => rfl
  | ok =>
    rcases HeadlessDisplay.acquire info.id d with ⟨_ | _, d⟩ <;> rfl

theorem createOn_ok {grant : UInt64 → δ → Except ε UInt64 × δ} {info : DisplayInfo}
    {shape : BufferShape} {renderer : σ} {d₀ d : δ} {m : Machine σ}
    (made : createOn grant info shape renderer d₀ = (.ok m, d)) :
    shape.check = .ok () ∧ ∃ resource, m = fresh info resource shape renderer := by
  unfold createOn at made
  cases check : shape.check with
  | error => simp [check] at made
  | ok =>
    rcases granted : grant info.id d₀ with ⟨_ | resource, d'⟩
    · simp [check, granted] at made
    · simp only [check, granted, Prod.mk.injEq, Except.ok.injEq] at made
      exact ⟨rfl, resource, made.1.symm⟩

/-- The register has the live buffer and nothing newer, and what was lent are copies of what it has. -/
structure Registered (m : Machine σ) (r : Register) : Prop where
  current : m.shared.slot.live ∈ r.issued
  handles : ∀ old ∈ r.issued, old.handle < m.shared.slot.nextHandle
  fingerprints : ∀ old ∈ r.issued, old.fingerprint ≤ m.shared.slot.live.fingerprint
  sized : m.shared.slot.live.shape.check = .ok ()
  copies : ∀ b ∈ r.lent, ∃ old ∈ r.issued, b = old.checkout

namespace Registered

variable {m m' : Machine σ} {r : Register}

theorem initial {shape : BufferShape} (check : shape.check = .ok ()) (info : DisplayInfo)
    (resource : UInt64) (renderer : σ) :
    Registered (fresh info resource shape renderer) (.opened (fresh info resource shape renderer)) where
  current := List.mem_singleton_self _
  handles := by simp [Register.opened, fresh, Session.new, Slot.new]
  fingerprints := by simp [Register.opened]
  sized := check
  copies := by simp [Register.opened]

theorem lent_le (h : Registered m r) {b : Checkout} (lent : b ∈ r.lent) :
    b.fingerprint ≤ m.shared.slot.live.fingerprint := by
  obtain ⟨old, issued, rfl⟩ := h.copies b lent
  exact h.fingerprints old issued

theorem onward (h : Registered m r) {busy : Bool}
    (slot : m'.shared.slot = { m.shared.slot with busy }) : Registered m' r := by
  constructor
  · simpa only [slot] using h.current
  · simpa only [slot] using h.handles
  · simpa only [slot] using h.fingerprints
  · simpa only [slot] using h.sized
  · exact h.copies

theorem lend (h : Registered m r) {b : Checkout} (lent : m.shared.slot.checkOut.1 = .ok b) :
    Registered m { r with lent := b :: r.lent } := by
  refine { h with copies := ?_ }
  intro b' hb'
  rcases List.mem_cons.mp hb' with rfl | hb'
  · exact ⟨m.shared.slot.live, h.current, Slot.checkOut_ok lent⟩
  · exact h.copies b' hb'

theorem newer (h : Registered m r) (shape : BufferShape) {old : LiveBuffer} (issued : old ∈ r.issued) :
    old.handle < (m.shared.slot.reallocate shape).live.handle ∧
      old.fingerprint < (m.shared.slot.reallocate shape).live.fingerprint := by
  have past := h.fingerprints old issued
  exact ⟨h.handles old issued, Nat.lt_succ_of_le past⟩

theorem replace (h : Registered m r) {shape : BufferShape} (check : shape.check = .ok ())
    (slot : m'.shared.slot = m.shared.slot.reallocate shape) :
    Registered m' { r with issued := (m.shared.slot.reallocate shape).live :: r.issued } := by
  have handle : m'.shared.slot.nextHandle = m.shared.slot.nextHandle + 1 := by
    rw [slot]
    rfl
  constructor
  · rw [slot]
    exact List.mem_cons_self
  · intro old issued
    rcases List.mem_cons.mp issued with rfl | issued
    · rw [handle]
      exact Nat.lt_succ_self _
    · have below := h.handles old issued
      omega
  · intro old issued
    rw [slot]
    rcases List.mem_cons.mp issued with rfl | issued
    · exact Nat.le_refl _
    · exact (h.newer shape issued).2.le
  · rw [slot]
    exact check
  · intro b lent
    obtain ⟨old, issued, copy⟩ := h.copies b lent
    exact ⟨old, List.mem_cons_of_mem _ issued, copy⟩

end Registered

variable [Renderer σ] [Display δ]

def registered (σ δ : Type) [Renderer σ] [Display δ] :
    System ((Machine σ × δ) × Register) (Event δ) :=
  (system σ δ).observed (fun c e r => r.noted c.1 e) fun _ _ => True

instance (c : (Machine σ × δ) × Register) (e : Event δ) :
    Decidable ((registered σ δ).Enabled c e) :=
  inferInstanceAs (Decidable ((system σ δ).Enabled c.1 e ∧ True))

variable {m : Machine σ} {d : δ}

/-- The live buffer is replaced by a reallocation that succeeds, and by nothing else. -/
theorem step_live {e : Event δ} (enabled : m.Enabled e) :
    (m.next d e).1.shared.slot.live = m.shared.slot.live ∨
      ∃ shape live, e = .reallocate shape ∧ (m.reallocate shape).1 = .ok live ∧
        (m.next d e).1.shared.slot.live = live := by
  have move := next_move m d e enabled
  cases e with
  | reallocate shape =>
    rcases Session.reallocate_cases shape m.shared with ⟨err, refused⟩ | replaced
    · left
      simp [next, Machine.reallocate, refused]
    · right
      exact ⟨shape, (m.shared.slot.reallocate shape).live, rfl, by
        simp [Machine.reallocate, replaced], by simp [next, Machine.reallocate, replaced]⟩
  | _ =>
    left
    obtain ⟨busy, slot⟩ := move_keeps_slot move (by simp)
    rw [slot]

theorem step_preserves_registered {e : Event δ} {r : Register} (h : Registered m r)
    (enabled : m.Enabled e) : Registered (m.next d e).1 (r.noted m e) := by
  have move := next_move m d e enabled
  cases e with
  | acquire =>
    obtain ⟨busy, slot⟩ := move_keeps_slot move (by simp)
    cases lent : m.acquire.1 with
    | error => simpa [Register.noted, lent] using h.onward slot
    | ok b =>
      have copy : m.shared.slot.checkOut.1 = .ok b := by
        cases dead : m.shared.isDead <;> simp_all [Machine.acquire, Session.acquire]
      simpa [Register.noted, lent] using (h.lend copy).onward slot
  | reallocate shape =>
    cases replaced : (m.reallocate shape).1 with
    | error =>
      have same : (m.reallocate shape).2.shared.slot =
          { m.shared.slot with busy := m.shared.slot.busy } := by
        rcases Session.reallocate_cases shape m.shared with ⟨_, refused⟩ | done
        · simp [Machine.reallocate, refused]
        · simp [Machine.reallocate, done] at replaced
      simpa [Register.noted, replaced, next] using h.onward same
    | ok live =>
      obtain ⟨check, rfl, done⟩ := Session.reallocate_ok replaced
      have slot : (m.reallocate shape).2.shared.slot = m.shared.slot.reallocate shape := by
        simp [Machine.reallocate, done]
      simpa [Register.noted, replaced, next] using h.replace check slot
  | _ =>
    obtain ⟨busy, slot⟩ := move_keeps_slot move (by simp)
    exact h.onward slot

theorem step_fingerprint_le {e : Event δ} (enabled : m.Enabled e) :
    m.shared.slot.live.fingerprint ≤ (m.next d e).1.shared.slot.live.fingerprint := by
  rcases step_live (d := d) enabled with same | ⟨shape, live, rfl, replaced, there⟩
  · rw [same]
  · obtain ⟨_, rfl, _⟩ := Session.reallocate_ok replaced
    rw [there]
    exact Nat.le_succ _

theorem trace_fingerprint_le {c : Machine σ × δ} {es : List (Event δ)}
    (valid : (system σ δ).Valid c es) : c.1.shared.slot.live.fingerprint ≤
      ((system σ δ).run c es).1.shared.slot.live.fingerprint := by
  induction es generalizing c with
  | nil => exact Nat.le_refl _
  | cons e es ih => exact Nat.le_trans (step_fingerprint_le valid.1) (ih valid.2)

omit [Renderer σ] in
theorem release_of_stale {b : Checkout} (ticket : Nat)
    (stale : b.fingerprint ≠ m.shared.slot.live.fingerprint) : m.release ticket b =
      { m with returned :=
          (ticket, .error (.staleBuffer b.fingerprint m.shared.slot.live.fingerprint)) :: m.returned } := by
  simp [release, Session.release_of_invalid (Slot.validate_of_stale stale)]

theorem reachable_registered {grant : UInt64 → δ → Except ε UInt64 × δ} {info : DisplayInfo}
    {shape : BufferShape} {renderer : σ} {d₀ d : δ} {m : Machine σ}
    (made : createOn grant info shape renderer d₀ = (.ok m, d)) {c : (Machine σ × δ) × Register}
    (h : (registered σ δ).Reachable ((m, d), .opened m) c) : Registered c.1.1 c.2 := by
  obtain ⟨check, resource, rfl⟩ := createOn_ok made
  exact h.invariant (I := fun c => Registered c.1.1 c.2) (.initial check info resource renderer)
    fun c _ _ holds enabled => step_preserves_registered (m := c.1.1) holds enabled.1

/-- The live buffer of a session always has a shape whose rows and size fit, and is replaced by nothing
but a reallocation that succeeds. That one has a handle and a fingerprint greater than every buffer
before it, and from then on each buffer that was lent before it is rejected as stale by every release,
with the fingerprint that is live at that time, whatever the callers and the render thread have done in
between. Handles and fingerprints are counted without bound. -/
theorem buffers_are_fresh_and_stay_revoked {grant : UInt64 → δ → Except ε UInt64 × δ}
    {info : DisplayInfo} {shape : BufferShape} {renderer : σ} {d₀ d : δ} {m : Machine σ}
    (made : createOn grant info shape renderer d₀ = (.ok m, d)) {c : (Machine σ × δ) × Register}
    (h : (registered σ δ).Reachable ((m, d), .opened m) c) :
    let live := c.1.1.shared.slot.live
    (live ∈ c.2.issued ∧ live.shape.width ≤ live.shape.stride ∧
      live.shape.stride.toNat * live.shape.height.toNat * live.shape.format.bytesPerPixel < 2 ^ 64) ∧
    (∀ e, (system σ δ).Enabled c.1 e →
      ((system σ δ).next c.1 e).1.shared.slot.live = live ∨
        ∃ shape new, e = .reallocate shape ∧ (c.1.1.reallocate shape).1 = .ok new ∧
          ((system σ δ).next c.1 e).1.shared.slot.live = new) ∧
    ∀ shape new, (c.1.1.reallocate shape).1 = .ok new →
      new.shape = shape ∧ (c.1.1.reallocate shape).2.shared.slot.live = new ∧
      (∀ old ∈ c.2.issued, old.handle < new.handle ∧ old.fingerprint < new.fingerprint) ∧
      ∀ b ∈ c.2.lent, ∀ fs, (system σ δ).Valid c.1 (.reallocate shape :: fs) →
        let c' := (system σ δ).run c.1 (.reallocate shape :: fs)
        let now := c'.1.shared.slot.live.fingerprint
        b.fingerprint < now ∧ ∀ ticket layers,
          (system σ δ).Enabled c' (.release ticket (b.add layers)) →
          (system σ δ).next c' (.release ticket (b.add layers)) =
            ({ c'.1 with returned :=
                (ticket, .error (.staleBuffer b.fingerprint now)) :: c'.1.returned }, c'.2) := by
  have registered := reachable_registered made h
  have sized := (BufferShape.check_eq_ok_iff _).mp registered.sized
  refine ⟨⟨registered.current, sized⟩, fun e enabled => step_live enabled, ?_⟩
  intro shape new replaced
  obtain ⟨_, rfl, done⟩ := Session.reallocate_ok replaced
  refine ⟨rfl, by simp [Machine.reallocate, done], fun old issued => registered.newer shape issued, ?_⟩
  intro b lent fs valid c' now
  have older : b.fingerprint < now := by
    have there : ((system σ δ).next c.1 (.reallocate shape)).1.shared.slot.live.fingerprint =
        c.1.1.shared.slot.live.fingerprint + 1 := by
      simp [system, next, Machine.reallocate, done, Slot.reallocate]
    have before := registered.lent_le lent
    have after := trace_fingerprint_le valid.2
    simp only [now, c', System.run_cons]
    omega
  refine ⟨older, fun ticket layers _ => ?_⟩
  have stale : (b.add layers).fingerprint ≠ now := Nat.ne_of_lt older
  exact congrArg (·, c'.2) (release_of_stale ticket stale)

/-- A buffer is lent and replaced twice, and the session is shut down before the buffer comes back. -/
theorem buffers_stay_revoked_after_shutdown :
    let shape : BufferShape := ⟨4, 2, 1, .rgba8888, .none, 4⟩
    let m : Machine Rehearsal := fresh ⟨1, "panel", 4, 2, 0⟩ 1 shape {}
    let d : HeadlessDisplay := { owner := some 1, acquireCalls := 1 }
    let c := (registered Rehearsal HeadlessDisplay).run ((m, d), .opened m) [.acquire]
    let b : Checkout := ⟨shape, 1, 1, []⟩
    let es : List (Event HeadlessDisplay) :=
      [.reallocate shape, .acquire, .reallocate shape, .shutdown]
    let c' := (system Rehearsal HeadlessDisplay).run c.1 es
    createOn HeadlessDisplay.acquire ⟨1, "panel", 4, 2, 0⟩ shape ({} : Rehearsal) {} = (.ok m, d) ∧
      b ∈ c.2.lent ∧ (system Rehearsal HeadlessDisplay).Valid c.1 es ∧ c'.1.shared.isDead = true ∧
      ((system Rehearsal HeadlessDisplay).next c' (.release 0 (b.add []))).1.returned =
        [(0, .error (.staleBuffer 1 3))] := by
  intro shape m d c b es c'
  have made : createOn HeadlessDisplay.acquire ⟨1, "panel", 4, 2, 0⟩ shape ({} : Rehearsal) {} =
      (.ok m, d) := rfl
  have reachable : (registered Rehearsal HeadlessDisplay).Reachable ((m, d), .opened m) c :=
    ⟨[.acquire], by decide, rfl⟩
  have lent : b ∈ c.2.lent := by decide
  have valid : (system Rehearsal HeadlessDisplay).Valid c.1 es := by decide
  obtain ⟨_, _, revoked⟩ := buffers_are_fresh_and_stay_revoked made reachable
  obtain ⟨_, _, _, stale⟩ := revoked shape ⟨shape, 2, 2⟩ rfl
  obtain ⟨_, rejected⟩ := stale b lent _ valid
  refine ⟨made, lent, valid, by decide, ?_⟩
  rw [rejected 0 [] (by decide)]
  rfl

end Machine

end DisplaySurface
