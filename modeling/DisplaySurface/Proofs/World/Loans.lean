import DisplaySurface.Proofs.Machine.Lending
import DisplaySurface.Proofs.Machine.Outcomes

/-!
Several sessions side by side, and the buffers that their callers hold. A buffer can be handed to any
session, whoever lent it. What any one session does is a run of that session alone.
-/

namespace DisplaySurface

def Event.isRelease {δ : Type} : Event δ → Bool
  | .release _ _ => true
  | _ => false

/-- A buffer that somebody holds, the session that lent it, and which of the loans of that session it is.
It is revoked once that session has replaced the buffer. -/
structure Loan (ι : Type) where
  origin : ι
  serial : Nat
  buffer : Checkout
  revoked : Bool := false
  deriving DecidableEq

def Loan.revokedBy {ι : Type} [DecidableEq ι] (i : ι) (loan : Loan ι) : Loan ι :=
  if loan.origin = i then { loan with revoked := true } else loan

@[simp] theorem Loan.revokedBy_origin {ι : Type} [DecidableEq ι] (i : ι) (loan : Loan ι) :
    (loan.revokedBy i).origin = loan.origin := by
  unfold revokedBy
  split <;> rfl

@[simp] theorem Loan.revokedBy_serial {ι : Type} [DecidableEq ι] (i : ι) (loan : Loan ι) :
    (loan.revokedBy i).serial = loan.serial := by
  unfold revokedBy
  split <;> rfl

/-- A step of one session. A buffer is handed back with the layers that its holder has put into it. -/
inductive Deed (ι δ : Type) where
  | call (i : ι) (e : Event δ)
  | handBack (i : ι) (ticket : Nat) (loan : Loan ι) (layers : List Layer)

namespace Deed

variable {ι δ : Type}

def site : Deed ι δ → ι
  | call i _ => i
  | handBack i _ _ _ => i

def event : Deed ι δ → Event δ
  | call _ e => e
  | handBack _ ticket loan layers => .release ticket (loan.buffer.add layers)

def Allowed (loans : List (Loan ι)) : Deed ι δ → Prop
  | call _ e => e.isRelease = false
  | handBack _ _ loan _ => loan ∈ loans

instance decidableAllowed [DecidableEq ι] (loans : List (Loan ι)) :
    (deed : Deed ι δ) → Decidable (deed.Allowed loans)
  | call _ e => inferInstanceAs (Decidable (e.isRelease = false))
  | handBack _ _ loan _ => inferInstanceAs (Decidable (loan ∈ loans))

end Deed

/-- `latest` holds the number of the latest loan of each session. -/
structure World (ι σ δ : Type) where
  sessions : ι → (Machine σ × δ) × Journal
  loans : List (Loan ι) := []
  latest : ι → Nat := fun _ => 0

namespace World

variable {ι σ δ : Type}

def machine (w : World ι σ δ) (i : ι) : Machine σ := (w.sessions i).1.1

def journal (w : World ι σ δ) (i : ι) : Journal := (w.sessions i).2

def slot (w : World ι σ δ) (i : ι) : Slot := (w.machine i).shared.slot

/-- The loan is the last one that the session has made, and the session still has its buffer out. -/
def IsOut (w : World ι σ δ) (i : ι) (loan : Loan ι) : Prop :=
  loan.origin = i ∧ loan.serial = w.latest i ∧ (w.slot i).busy = true

instance [DecidableEq ι] (w : World ι σ δ) (i : ι) (loan : Loan ι) : Decidable (w.IsOut i loan) :=
  inferInstanceAs (Decidable (_ ∧ _ ∧ _))

structure IsNew (w : World ι σ δ) : Prop where
  fresh : ∀ i, ∃ info resource shape renderer d,
    w.sessions i = ((Machine.fresh info resource shape renderer, d), {})
  unlent : w.loans = []

def loansAfter [DecidableEq ι] (w : World ι σ δ) : Deed ι δ → List (Loan ι)
  | .call i .acquire => match (w.machine i).acquire.1 with
    | .ok buffer => { origin := i, serial := w.latest i + 1, buffer } :: w.loans
    | .error _ => w.loans
  | .call i (.reallocate shape) => match ((w.machine i).reallocate shape).1 with
    | .ok _ => w.loans.map (Loan.revokedBy i)
    | .error _ => w.loans
  | .call _ _ => w.loans
  | .handBack _ _ loan _ => w.loans.erase loan

def latestAfter [DecidableEq ι] (w : World ι σ δ) : Deed ι δ → ι → Nat
  | .call i .acquire => match (w.machine i).acquire.1 with
    | .ok _ => Function.update w.latest i (w.latest i + 1)
    | .error _ => w.latest
  | _ => w.latest

/-- Sessions that know nothing of each other, with journals. -/
def together (ι σ δ : Type) [DecidableEq ι] [Renderer σ] [Display δ] :
    System (World ι σ δ) (Deed ι δ) where
  Enabled w deed := deed.Allowed w.loans ∧
    (Machine.journaled σ δ).Enabled (w.sessions deed.site) deed.event
  next w deed :=
    { sessions := Function.update w.sessions deed.site
        ((Machine.journaled σ δ).next (w.sessions deed.site) deed.event)
      loans := w.loansAfter deed
      latest := w.latestAfter deed }

instance [DecidableEq ι] [Renderer σ] [Display δ] (w : World ι σ δ) (deed : Deed ι δ) :
    Decidable ((together ι σ δ).Enabled w deed) :=
  inferInstanceAs (Decidable (deed.Allowed w.loans ∧
    (Machine.journaled σ δ).Enabled (w.sessions deed.site) deed.event))

/-- A buffer that is held is the live one of the session that lent it, or it was revoked and is older. -/
def Dated (w : World ι σ δ) : Prop :=
  ∀ loan ∈ w.loans, loan.buffer.fingerprint ≤ (w.slot loan.origin).live.fingerprint ∧
    (loan.revoked = true ↔ loan.buffer.fingerprint < (w.slot loan.origin).live.fingerprint)

/-- No two loans of a session have the same number, and none has a number above that of the latest. -/
structure Numbered (w : World ι σ δ) : Prop where
  bounded : ∀ loan ∈ w.loans, loan.serial ≤ w.latest loan.origin
  distinct : w.loans.Pairwise fun loan other => loan.origin = other.origin → loan.serial ≠ other.serial

/-- At most one loan of a session is out. -/
theorem Numbered.isOut_unique {w : World ι σ δ} (h : w.Numbered) {i : ι} {loan other : Loan ι}
    (held : loan ∈ w.loans) (held' : other ∈ w.loans) (out : w.IsOut i loan) (out' : w.IsOut i other) :
    loan = other := by
  by_contra different
  have symmetric : Std.Symm fun loan other : Loan ι =>
      loan.origin = other.origin → loan.serial ≠ other.serial :=
    ⟨fun _ _ apart same => (apart same.symm).symm⟩
  have apart := h.distinct.forall held held' different
  exact apart (out.1.trans out'.1.symm) (out.2.1.trans out'.2.1.symm)

theorem IsNew.numbered {start : World ι σ δ} (new : start.IsNew) : start.Numbered := by
  constructor <;> simp [new.unlent]

theorem IsNew.dated {start : World ι σ δ} (new : start.IsNew) : start.Dated := by
  simp [Dated, new.unlent]

theorem Dated.onward {w w' : World ι σ δ} (h : w.Dated) (live : ∀ i, (w'.slot i).live = (w.slot i).live)
    (loans : ∀ loan ∈ w'.loans, loan ∈ w.loans) : w'.Dated := by
  intro loan held
  rw [live]
  exact h loan (loans loan held)

end World

namespace Machine

variable {σ δ : Type}

theorem acquire_fingerprint {m : Machine σ} {b : Checkout} (lent : m.acquire.1 = .ok b) :
    b.fingerprint = m.shared.slot.live.fingerprint := by
  simp only [Machine.acquire, Session.acquire, Slot.checkOut] at lent
  split at lent
  · cases lent
  · split at lent <;> cases lent
    rfl

variable [Renderer σ] [Display δ]

theorem move_keeps_live {m : Machine σ} {d : δ} {e : Event δ} {c : Machine σ × δ}
    (move : Move m d e c) (other : ∀ shape, e ≠ .reallocate shape) :
    c.1.shared.slot.live = m.shared.slot.live := by
  obtain ⟨busy, slot⟩ := move_keeps_slot move other
  rw [slot]

end Machine

namespace World

variable {ι σ δ : Type} [DecidableEq ι] [Renderer σ] [Display δ] {start w : World ι σ δ}

theorem next_at (w : World ι σ δ) (deed : Deed ι δ) :
    ((together ι σ δ).next w deed).sessions deed.site =
      (Machine.journaled σ δ).next (w.sessions deed.site) deed.event :=
  Function.update_self ..

theorem next_elsewhere {i : ι} {deed : Deed ι δ} (elsewhere : i ≠ deed.site) :
    ((together ι σ δ).next w deed).sessions i = w.sessions i :=
  Function.update_of_ne elsewhere ..

/-- What a world does is a run of each of its sessions. -/
theorem step_session {deed : Deed ι δ} (enabled : (together ι σ δ).Enabled w deed) (i : ι) :
    (Machine.journaled σ δ).Reachable (w.sessions i) (((together ι σ δ).next w deed).sessions i) := by
  by_cases here : i = deed.site
  · subst here
    rw [next_at]
    exact (System.Reachable.refl _ _).tail enabled.2
  · rw [next_elsewhere here]
    exact .refl _ _

theorem trace_session {deeds : List (Deed ι δ)} (valid : (together ι σ δ).Valid w deeds) (i : ι) :
    (Machine.journaled σ δ).Reachable (w.sessions i)
      (((together ι σ δ).run w deeds).sessions i) := by
  induction deeds generalizing w with
  | nil => exact .refl _ _
  | cons deed deeds ih => exact (step_session valid.1 i).trans (ih valid.2)

theorem IsNew.followed (new : start.IsNew) (h : (together ι σ δ).Reachable start w) (i : ι) :
    Machine.Followed (w.sessions i) := by
  obtain ⟨deeds, valid, rfl⟩ := h
  obtain ⟨info, resource, shape, renderer, d, fresh⟩ := new.fresh i
  have run := trace_session valid i
  rw [fresh] at run
  exact Machine.reachable_followed info resource shape renderer d run

theorem machine_at (w : World ι σ δ) (deed : Deed ι δ) :
    ((together ι σ δ).next w deed).machine deed.site =
      ((w.machine deed.site).next (w.sessions deed.site).1.2 deed.event).1 := by
  unfold machine
  rw [next_at]
  rfl

theorem slot_elsewhere {i : ι} {deed : Deed ι δ} (elsewhere : i ≠ deed.site) :
    ((together ι σ δ).next w deed).slot i = w.slot i := by
  unfold slot machine
  rw [next_elsewhere elsewhere]

theorem next_keeps_live {deed : Deed ι δ} (enabled : (together ι σ δ).Enabled w deed)
    (other : ∀ shape, deed.event ≠ .reallocate shape) (i : ι) :
    (((together ι σ δ).next w deed).slot i).live = (w.slot i).live := by
  by_cases here : i = deed.site
  · subst here
    rw [slot, machine_at]
    exact Machine.move_keeps_live (Machine.next_move _ _ _ enabled.2.1) other
  · rw [slot_elsewhere here]

theorem lend_keeps_dated {i : ι} (h : w.Dated)
    (enabled : (together ι σ δ).Enabled w (.call i .acquire)) :
    ((together ι σ δ).next w (.call i .acquire)).Dated := by
  have live := next_keeps_live enabled (by simp [Deed.event])
  cases lent : (w.machine i).acquire.1 with
  | error => exact h.onward live (by simp [together, loansAfter, lent])
  | ok buffer =>
    intro loan held
    simp only [together, loansAfter, lent, List.mem_cons] at held
    rw [live]
    rcases held with rfl | held
    · simp [slot, Machine.acquire_fingerprint lent]
    · exact h loan held

theorem replace_keeps_dated {i : ι} {shape : BufferShape} (h : w.Dated) :
    ((together ι σ δ).next w (.call i (.reallocate shape))).Dated := by
  have here := machine_at w (.call i (.reallocate shape))
  simp only [Deed.site, Deed.event, Machine.next, Machine.reallocate] at here
  rcases Session.reallocate_cases shape (w.machine i).shared with ⟨e, refused⟩ | replaced
  · refine h.onward (fun j => ?_) (by simp [together, loansAfter, Machine.reallocate, refused])
    by_cases own : j = i
    · subst own
      rw [slot, slot, here, refused]
    · rw [slot_elsewhere own]
  · intro loan' held
    simp only [together, loansAfter, Machine.reallocate, replaced, List.mem_map] at held
    obtain ⟨loan, held, rfl⟩ := held
    have dates := h loan held
    by_cases own : loan.origin = i
    · subst own
      have older : loan.buffer.fingerprint < (w.slot loan.origin).live.fingerprint + 1 := by omega
      simp only [Loan.revokedBy, if_true, slot, here, replaced]
      exact ⟨older.le, fun _ => older, fun _ => trivial⟩
    · have same : loan.revokedBy i = loan := by simp [Loan.revokedBy, own]
      rw [same, slot_elsewhere own]
      exact dates

theorem step_keeps_dated {deed : Deed ι δ} (h : w.Dated) (enabled : (together ι σ δ).Enabled w deed) :
    ((together ι σ δ).next w deed).Dated := by
  cases deed with
  | handBack i ticket loan layers =>
    exact h.onward (next_keeps_live enabled (by simp [Deed.event])) fun _ => List.mem_of_mem_erase
  | call i e =>
    cases e with
    | acquire => exact lend_keeps_dated h enabled
    | reallocate => exact replace_keeps_dated h
    | _ => exact h.onward (next_keeps_live enabled (by simp [Deed.event])) fun _ => id

theorem lend_keeps_numbered {i : ι} (h : w.Numbered) :
    ((together ι σ δ).next w (.call i .acquire)).Numbered := by
  cases lent : (w.machine i).acquire.1 with
  | error =>
    constructor
    · simpa [together, loansAfter, latestAfter, lent] using h.bounded
    · simpa [together, loansAfter, lent] using h.distinct
  | ok buffer =>
    constructor
    · intro loan held
      simp only [together, loansAfter, latestAfter, lent, List.mem_cons] at held ⊢
      rcases held with rfl | held
      · simp
      · have bound := h.bounded loan held
        by_cases own : loan.origin = i
        · subst own
          rw [Function.update_self]
          omega
        · rwa [Function.update_of_ne own]
    · simp only [together, loansAfter, lent, List.pairwise_cons]
      refine ⟨fun loan held same => ?_, h.distinct⟩
      have bound := h.bounded loan held
      subst same
      exact (Nat.lt_succ_of_le bound).ne'

theorem step_keeps_numbered {deed : Deed ι δ} (h : w.Numbered) :
    ((together ι σ δ).next w deed).Numbered := by
  cases deed with
  | handBack i ticket loan layers =>
    exact ⟨fun _ held => h.bounded _ (List.mem_of_mem_erase held), h.distinct.sublist List.erase_sublist⟩
  | call i e =>
    cases e with
    | acquire => exact lend_keeps_numbered h
    | reallocate shape =>
      cases replaced : ((w.machine i).reallocate shape).1 with
      | error | ok =>
        constructor
        · simpa [together, loansAfter, latestAfter, replaced] using h.bounded
        · simpa [together, loansAfter, replaced, List.pairwise_map] using h.distinct
    | _ => exact ⟨h.bounded, h.distinct⟩

theorem reachable_numbered (new : start.IsNew) (h : (together ι σ δ).Reachable start w) : w.Numbered :=
  h.invariant new.numbered fun _ _ _ holds _ => step_keeps_numbered holds

theorem reachable_dated (new : start.IsNew) (h : (together ι σ δ).Reachable start w) : w.Dated :=
  h.invariant new.dated fun _ _ _ holds enabled => step_keeps_dated holds enabled

end World

end DisplaySurface
