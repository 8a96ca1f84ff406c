import DisplaySurface.Proofs.Machine.Passing
import Mathlib

/-!
Whose frame is whose. A journal beside the session follows every frame from the release that hands it
over to the outcome that is returned: the ticket of the release goes wherever the frame goes. The session
knows nothing of tickets.
-/

namespace DisplaySurface

/-- What happens to frames. The owner of a frame is the release that handed it over, as far as it is
known to whoever has the frame. -/
inductive Entry where
  | handedOver (ticket : Nat) (layers : List Layer)
  | taken (owner : Option Nat) (requested : Visibility)
  | drawn (owner : Option Nat) (buffer : LiveBuffer) (layers : List Layer)
  | composed (owner : Option Nat) (reply : Reply)
  | shown (owner : Option Nat) (frame : Frame) (reply : Reply)
  | returned (ticket : Nat) (outcome : Outcome)
  | shutDown
  | exited
  deriving DecidableEq

namespace Entry

def ticket? : Entry → Option Nat
  | handedOver t _ | returned t _ => some t
  | taken o _ | drawn o _ _ | composed o _ | shown o _ _ => o
  | shutDown | exited => none

/-- Whether the entry is about a call and not about what the render thread does with a frame. -/
def isPlain : Entry → Bool
  | handedOver _ _ | returned _ _ | shutDown | exited => true
  | taken _ _ | drawn _ _ _ | composed _ _ | shown _ _ _ => false

def drawn? : Entry → Option (LiveBuffer × List Layer)
  | drawn _ buffer layers => some (buffer, layers)
  | _ => none

def shown? : Entry → Option Frame
  | shown _ frame _ => some frame
  | _ => none

def returned? : Entry → Option (Nat × Outcome)
  | returned t outcome => some (t, outcome)
  | _ => none

end Entry

namespace RenderCall

def compose? : RenderCall → Option (LiveBuffer × List Layer)
  | compose buffer layers => some (buffer, layers)
  | _ => none

def present? : RenderCall → Option Frame
  | present frame => some frame
  | _ => none

end RenderCall

/-- `offered` owns what is in the handoff, `inHand` what the render thread has. The latest entry is the
first. -/
structure Journal where
  offered : Option Nat := none
  inHand : Option Nat := none
  entries : List Entry := []

namespace Journal

variable {σ δ : Type}

def write (e : Entry) (j : Journal) : Journal :=
  { j with entries := e :: j.entries }

def release (ticket : Nat) (layers : List Layer) (r : Release) (j : Journal) : Journal :=
  match r with
  | .waiting => { j.write (.handedOver ticket layers) with offered := some ticket }
  | .returned outcome => j.write (.returned ticket outcome)

def take (found : Found) (j : Journal) : Journal :=
  match found with
  | .frame f requested =>
    let taken := { j.write (.taken j.offered requested) with inHand := j.offered }
    if requested.isVisible then
      taken.write (.drawn j.offered f.buffer (Layer.inDrawingOrder f.layers))
    else taken
  | .nothing | .stop => j

/-- What the render thread has goes back to the handoff. -/
def giveBack (h : Handoff) (j : Journal) : Journal :=
  match h with
  | .rendering => { j with offered := j.inHand, inHand := none }
  | _ => { j with inHand := none }

def noted [Renderer σ] [Display δ] (m : Machine σ) (d : δ) (e : Event δ) (j : Journal) : Journal :=
  match e with
  | .release ticket b => j.release ticket b.layers (m.shared.release b).1
  | .resume ticket =>
    if m.shared.mustWait && !m.poisoned then j
    else j.write (.returned ticket m.shared.collect.1)
  | .shutdown => if m.shared.isDead then j else j.write .shutDown
  | .work =>
    match m.phase with
    | .seeking => j.take m.shared.nextFrame.1
    | .composing f =>
      j.write (.composed j.inHand (Renderer.compose f.buffer f.layers m.renderer).1)
    | .presenting f => j.write (.shown j.inHand f (Display.present m.resource f d).1)
    | .publishing _ => j.giveBack m.shared.handoff
    | .leaving _ => j.write .exited
    | _ => j
  | _ => j

end Journal

def Machine.journaled (σ δ : Type) [Renderer σ] [Display δ] :
    System ((Machine σ × δ) × Journal) (Event δ) :=
  (system σ δ).observed (fun c e j => j.noted c.1 c.2 e) fun _ _ => True

instance [Renderer σ] [Display δ] (c : (Machine σ × δ) × Journal) (e : Event δ) :
    Decidable ((Machine.journaled σ δ).Enabled c e) :=
  inferInstanceAs (Decidable ((Machine.system σ δ).Enabled c.1 e ∧ True))

namespace Journal

variable {σ δ : Type} [Renderer σ] [Display δ] {m : Machine σ} {d : δ} {j : Journal}

section Calls

variable {ticket : Nat} {b : Checkout}

theorem noted_of_invalid {err : SessionError} (invalid : m.shared.slot.validate b = .error err) :
    j.noted m d (.release ticket b) = j.write (.returned ticket (.error err)) := by
  simp [noted, release, Session.release_of_invalid invalid]

theorem noted_of_off (valid : m.shared.slot.validate b = .ok ())
    (off : m.shared.isDead = true ∨
      m.shared.requested.isVisible = true ∧ m.shared.thread ≠ .running) :
    j.noted m d (.release ticket b) = j.write (.returned ticket (.error .shutDown)) := by
  simp [noted, release, Session.release_of_off valid off]

theorem noted_of_hidden (valid : m.shared.slot.validate b = .ok ()) (alive : m.shared.isDead = false)
    (hidden : m.shared.requested.isVisible = false) :
    j.noted m d (.release ticket b) = j.write (.returned ticket (.ok ())) := by
  simp [noted, release, Session.release_of_hidden valid alive hidden]

theorem noted_of_occupied (valid : m.shared.slot.validate b = .ok ())
    (alive : m.shared.isDead = false) (visible : m.shared.requested.isVisible = true)
    (running : m.shared.thread = .running) (occupied : m.shared.handoff ≠ .idle) :
    j.noted m d (.release ticket b) = j.write (.returned ticket (.error .frameInFlight)) := by
  simp [noted, release, Session.release_of_occupied valid alive visible running occupied]

theorem noted_of_idle (valid : m.shared.slot.validate b = .ok ()) (alive : m.shared.isDead = false)
    (visible : m.shared.requested.isVisible = true) (running : m.shared.thread = .running)
    (idle : m.shared.handoff = .idle) : j.noted m d (.release ticket b) =
      { j.write (.handedOver ticket b.layers) with offered := some ticket } := by
  simp [noted, release, Session.release_of_idle valid alive visible running idle]

theorem noted_of_wait (must : m.shared.mustWait = true) (clean : m.poisoned = false) :
    j.noted m d (.resume ticket) = j := by
  simp [noted, must, clean]

theorem noted_of_settled (settled : m.shared.mustWait = false ∨ m.poisoned = true) :
    j.noted m d (.resume ticket) = j.write (.returned ticket m.shared.collect.1) := by
  rcases settled with settled | poisoned
  · simp [noted, settled]
  · simp [noted, poisoned]

theorem noted_of_dead (dead : m.shared.isDead = true) : j.noted m d .shutdown = j := by
  simp [noted, dead]

theorem noted_of_alive (alive : m.shared.isDead = false) :
    j.noted m d .shutdown = j.write .shutDown := by
  simp [noted, alive]

end Calls

theorem noted_of_empty (here : m.phase = .seeking) (running : m.shared.thread = .running)
    (none : m.shared.handoff.isReady = false) : j.noted m d .work = j := by
  simp [noted, here, Session.nextFrame_of_not_ready running none, take]

theorem noted_of_halted (here : m.phase = .seeking) (halted : m.shared.thread ≠ .running) :
    j.noted m d .work = j := by
  simp [noted, here, Session.nextFrame_of_halted halted, take]

section Taking

variable {frame : Submission}

theorem noted_of_visible (here : m.phase = .seeking) (running : m.shared.thread = .running)
    (ready : m.shared.handoff = .ready frame) (visible : m.shared.requested.isVisible = true) :
    j.noted m d .work = { j with
      inHand := j.offered
      entries := .drawn j.offered frame.buffer (Layer.inDrawingOrder frame.layers) ::
        .taken j.offered m.shared.requested :: j.entries } := by
  simp [noted, here, Session.nextFrame_of_ready running ready, take, visible, write]

theorem noted_of_skip (here : m.phase = .seeking) (running : m.shared.thread = .running)
    (ready : m.shared.handoff = .ready frame) (hidden : m.shared.requested.isVisible = false) :
    j.noted m d .work = { j with
      inHand := j.offered
      entries := .taken j.offered m.shared.requested :: j.entries } := by
  simp [noted, here, Session.nextFrame_of_ready running ready, take, hidden, write]

theorem noted_of_composing {reply : Reply} {renderer : σ} (here : m.phase = .composing frame)
    (answer : Renderer.compose frame.buffer frame.layers m.renderer = (reply, renderer)) :
    j.noted m d .work = j.write (.composed j.inHand reply) := by
  simp [noted, here, answer]

end Taking

theorem noted_of_presenting {frame : Frame} {reply : Reply} {d' : δ} (here : m.phase = .presenting frame)
    (answer : Display.present m.resource frame d = (reply, d')) :
    j.noted m d .work = j.write (.shown j.inHand frame reply) := by
  simp [noted, here, answer]

theorem noted_of_publishing {r : Rendered} (here : m.phase = .publishing r)
    (rendering : m.shared.handoff = .rendering) :
    j.noted m d .work = { j with offered := j.inHand, inHand := none } := by
  simp [noted, here, rendering, giveBack]

theorem noted_of_leaving {crashed : Bool} (here : m.phase = .leaving crashed) :
    j.noted m d .work = j.write .exited := by
  simp [noted, here]

theorem suffix_write (e : Entry) (j : Journal) : j.entries <:+ (j.write e).entries :=
  List.suffix_cons e j.entries

@[simp] theorem entries_giveBack (j : Journal) (h : Handoff) :
    (j.giveBack h).entries = j.entries := by
  cases h <;> rfl

/-- The entries of a journal that the other does not have begin it, and all satisfy `P`. -/
def Grows (P : Entry → Prop) (j j' : Journal) : Prop :=
  ∃ more, j'.entries = more ++ j.entries ∧ ∀ e ∈ more, P e

theorem Grows.same {P : Entry → Prop} {j j' : Journal} (same : j'.entries = j.entries) :
    Grows P j j' :=
  ⟨[], same, by simp⟩

theorem Grows.write {P : Entry → Prop} {e : Entry} (j : Journal) (new : P e) : Grows P j (j.write e) :=
  ⟨[e], rfl, by simpa using new⟩

/-- Where an entry about the session or its thread comes from. -/
def Stems (m : Machine σ) (e : Event δ) : Entry → Prop
  | .shutDown => e = .shutdown
  | .exited => e = .work ∧ ∃ crashed, m.phase = .leaving crashed
  | .taken _ _ => m.phase = .seeking
  | .returned t _ => e = .resume t ∨ ∃ b, e = .release t b
  | _ => True

theorem grows_noted (m : Machine σ) (d : δ) (e : Event δ) (j : Journal) :
    Grows (Stems m e) j (j.noted m d e) := by
  cases e with
  | release ticket b =>
    cases first : (m.shared.release b).1 with
    | returned outcome =>
      simp only [noted, release, first]
      exact .write j (.inr ⟨b, rfl⟩)
    | waiting =>
      simp only [noted, release, first]
      exact ⟨[.handedOver ticket b.layers], rfl, by simp [Stems]⟩
  | resume ticket =>
    by_cases waits : (m.shared.mustWait && !m.poisoned) = true
    · simp only [noted, if_pos waits]
      exact .same rfl
    · simp only [noted, if_neg waits]
      exact .write j (.inl rfl)
  | shutdown =>
    by_cases dead : m.shared.isDead = true
    · simp only [noted, if_pos dead]
      exact .same rfl
    · simp only [noted, if_neg dead]
      exact .write j rfl
  | work =>
    cases here : m.phase with
    | seeking =>
      rcases found : m.shared.nextFrame.1 with _ | _ | ⟨frame, requested⟩
      · simp only [noted, here, found, take]
        exact .same rfl
      · simp only [noted, here, found, take]
        exact .same rfl
      · cases visible : requested.isVisible with
        | true =>
          simp only [noted, here, found, take, visible, if_true]
          exact ⟨[.drawn j.offered frame.buffer (Layer.inDrawingOrder frame.layers),
            .taken j.offered requested], rfl, by simp [Stems, here]⟩
        | false =>
          simp only [noted, here, found, take, visible, Bool.false_eq_true, if_false]
          exact ⟨[.taken j.offered requested], rfl, by simp [Stems, here]⟩
    | publishing =>
      simp only [noted, here]
      exact .same (entries_giveBack j _)
    | composing | presenting =>
      simp only [noted, here]
      exact .write j trivial
    | leaving crashed =>
      simp only [noted, here]
      exact .write j ⟨rfl, crashed, here⟩
    | _ =>
      simp only [noted, here]
      exact .same rfl
  | _ => exact .same rfl

theorem suffix_noted (m : Machine σ) (d : δ) (e : Event δ) (j : Journal) :
    j.entries <:+ (j.noted m d e).entries := by
  obtain ⟨more, entries, _⟩ := grows_noted m d e j
  exact ⟨more, entries.symm⟩

/-- Only the render thread takes frames into its hands, and puts them down. -/
theorem inHand_noted {e : Event δ} (j : Journal) (other : e ≠ .work) :
    (j.noted m d e).inHand = j.inHand := by
  cases e with
  | work => exact absurd rfl other
  | release ticket b =>
    cases first : (m.shared.release b).1 <;> simp only [noted, release, first, write]
  | resume | shutdown =>
    simp only [noted]
    split <;> rfl
  | _ => rfl

end Journal

/-- How a session answers to a buffer that is not its own, or that is not out. -/
def SessionError.isRefusal : SessionError → Bool
  | .staleBuffer _ _ | .invalidState _ => true
  | _ => false

inductive Ended (es : List Entry) (t : Nat) : Outcome → Prop where
  | presented (frame) (h : .shown (some t) frame .done ∈ es) : Ended es t (.ok ())
  | discarded (requested) (h : .taken (some t) requested ∈ es)
      (hidden : requested.isVisible = false) : Ended es t (.ok ())
  | composeFailed (reason) (h : .composed (some t) (.failed reason) ∈ es) :
      Ended es t (.error (.composeFailed reason))
  | presentFailed (reason frame) (h : .shown (some t) frame (.failed reason) ∈ es) :
      Ended es t (.error (.presentFailed reason))

/-- The session was shut down, or its render thread has left, since the release handed its frame over. -/
def CutOff (es : List Entry) (t : Nat) : Prop :=
  ∃ newer layers older, es = newer ++ .handedOver t layers :: older ∧
    (.shutDown ∈ newer ∨ .exited ∈ newer)

/-- What a release that waited should return. -/
def Earned (es : List Entry) (t : Nat) (outcome : Outcome) : Prop :=
  Ended es t outcome ∨ outcome = .error .shutDown ∧ CutOff es t

/-- No frame was ever taken. -/
def Untaken (es : List Entry) : Prop :=
  ∀ owner requested, .taken owner requested ∉ es

def Justified (older : List Entry) : Entry → Prop
  | .handedOver t _ => ∀ e ∈ older, e.ticket? ≠ some t
  | .taken o _ => (∃ t layers, o = some t ∧ .handedOver t layers ∈ older) ∧
      ∀ requested, .taken o requested ∉ older
  | .drawn o _ layers => (∃ t handed, o = some t ∧ .handedOver t handed ∈ older ∧
        layers = Layer.inDrawingOrder handed) ∧
      (∃ requested, .taken o requested ∈ older ∧ requested.isVisible = true) ∧
      ∀ buffer layers, .drawn o buffer layers ∉ older
  | .composed o _ => (∃ buffer layers, .drawn o buffer layers ∈ older) ∧
      ∀ reply, .composed o reply ∉ older
  | .shown o frame _ => (∃ layers, .drawn o frame.buffer layers ∈ older) ∧
      .composed o .done ∈ older ∧ ∀ frame reply, .shown o frame reply ∉ older
  | .returned t outcome => (∀ e ∈ older, e.ticket? ≠ some t) ∨
      (∃ layers, .handedOver t layers ∈ older) ∧
        (Earned older t outcome ∨ outcome = .error .shutDown ∧ Untaken older)
  | .shutDown | .exited => True

def Sound : List Entry → Prop
  | [] => True
  | e :: older => Justified older e ∧ Sound older

/-- Whatever was returned to a release whose frame was handed over is earned. -/
def AllEarned (es : List Entry) : Prop :=
  ∀ newer t outcome older, es = newer ++ .returned t outcome :: older →
    (∃ handed, .handedOver t handed ∈ older) → Earned older t outcome

theorem AllEarned.cons_iff {es : List Entry} {e : Entry} :
    AllEarned (e :: es) ↔ AllEarned es ∧ ∀ t outcome, e = .returned t outcome →
      (∃ handed, .handedOver t handed ∈ es) → Earned es t outcome := by
  constructor
  · intro all
    constructor
    · rintro newer t outcome older rfl
      exact all (e :: newer) t outcome older rfl
    · rintro t outcome rfl
      exact all [] t outcome es rfl
  · rintro ⟨all, first⟩ newer t outcome older split
    cases newer with
    | nil =>
      obtain ⟨rfl, rfl⟩ := List.cons.inj split
      exact first t outcome rfl
    | cons _ newer =>
      obtain ⟨_, rfl⟩ := List.cons.inj split
      exact all newer t outcome older rfl

theorem AllEarned.append_iff {es more : List Entry} (none : ∀ t outcome, .returned t outcome ∉ more) :
    AllEarned (more ++ es) ↔ AllEarned es := by
  induction more with
  | nil => exact Iff.rfl
  | cons e more ih =>
    rw [List.cons_append, cons_iff, ih fun t outcome mem => none t outcome (List.mem_cons_of_mem e mem)]
    refine and_iff_left fun t outcome same => ?_
    exact absurd (same ▸ List.mem_cons_self) (none t outcome)

/-- A release that was cut off has a shutdown or an exit in its journal. -/
theorem not_earned_of_uncut {es : List Entry} {t : Nat} (kept : .shutDown ∉ es) (there : .exited ∉ es) :
    ¬ Earned es t (.error .shutDown) := by
  rintro (ended | ⟨_, newer, layers, older, rfl, cut | cut⟩)
  · cases ended
  · exact kept (List.mem_append_left _ cut)
  · exact there (List.mem_append_left _ cut)

theorem Ended.mono {es fs : List Entry} {t : Nat} {outcome : Outcome} (h : Ended es t outcome)
    (sub : ∀ e ∈ es, e ∈ fs) : Ended fs t outcome := by
  cases h with
  | presented frame h => exact .presented frame (sub _ h)
  | discarded requested h hidden => exact .discarded requested (sub _ h) hidden
  | composeFailed reason h => exact .composeFailed reason (sub _ h)
  | presentFailed reason frame h => exact .presentFailed reason frame (sub _ h)

theorem CutOff.cons {es : List Entry} {t : Nat} (h : CutOff es t) (e : Entry) :
    CutOff (e :: es) t := by
  obtain ⟨newer, layers, older, rfl, cut⟩ := h
  exact ⟨e :: newer, layers, older, rfl,
    cut.imp (List.mem_cons_of_mem e) (List.mem_cons_of_mem e)⟩

theorem cutOff_of_mem {es : List Entry} {t : Nat} {layers : List Layer} {e : Entry}
    (handed : .handedOver t layers ∈ es) (cut : e = .shutDown ∨ e = .exited) :
    CutOff (e :: es) t := by
  obtain ⟨newer, older, rfl⟩ := List.append_of_mem handed
  refine ⟨e :: newer, layers, older, rfl, ?_⟩
  rcases cut with rfl | rfl
  · exact .inl List.mem_cons_self
  · exact .inr List.mem_cons_self

namespace Sound

variable {es older newer : List Entry} {e : Entry} {o : Option Nat}

theorem of_append (h : Sound (newer ++ e :: older)) : Justified older e ∧ Sound older := by
  induction newer with
  | nil => exact h
  | cons _ _ ih => exact ih h.2

theorem justified (h : Sound es) (mem : e ∈ es) :
    ∃ older, (∀ f ∈ older, f ∈ es) ∧ Justified older e := by
  obtain ⟨newer, older, rfl⟩ := List.append_of_mem mem
  exact ⟨older, fun f hf => by simp [hf], h.of_append.1⟩

theorem handed_of_taken (h : Sound es) {requested : Visibility}
    (mem : .taken o requested ∈ es) : ∃ t layers, o = some t ∧ .handedOver t layers ∈ es := by
  obtain ⟨older, sub, ⟨t, layers, owner, handed⟩, _⟩ := h.justified mem
  exact ⟨t, layers, owner, sub _ handed⟩

theorem taken_of_drawn (h : Sound es) {buffer : LiveBuffer} {layers : List Layer}
    (mem : .drawn o buffer layers ∈ es) : ∃ requested, .taken o requested ∈ es := by
  obtain ⟨older, sub, _, ⟨requested, taken, _⟩, _⟩ := h.justified mem
  exact ⟨requested, sub _ taken⟩

theorem drawn_of_composed (h : Sound es) {reply : Reply} (mem : .composed o reply ∈ es) :
    ∃ buffer layers, .drawn o buffer layers ∈ es := by
  obtain ⟨older, sub, ⟨buffer, layers, drawn⟩, _⟩ := h.justified mem
  exact ⟨buffer, layers, sub _ drawn⟩

theorem taken_of_composed (h : Sound es) {reply : Reply} (mem : .composed o reply ∈ es) :
    ∃ requested, .taken o requested ∈ es := by
  obtain ⟨buffer, layers, drawn⟩ := h.drawn_of_composed mem
  exact h.taken_of_drawn drawn

theorem composed_of_shown (h : Sound es) {frame : Frame} {reply : Reply}
    (mem : .shown o frame reply ∈ es) : .composed o .done ∈ es := by
  obtain ⟨older, sub, _, composed, _⟩ := h.justified mem
  exact sub _ composed

theorem handed_of_drawn (h : Sound es) {buffer : LiveBuffer} {layers : List Layer}
    (mem : .drawn o buffer layers ∈ es) : ∃ t handed, o = some t ∧ .handedOver t handed ∈ es := by
  obtain ⟨requested, taken⟩ := h.taken_of_drawn mem
  exact h.handed_of_taken taken

theorem handed_in_order (h : Sound es) {buffer : LiveBuffer} {layers : List Layer}
    (mem : .drawn o buffer layers ∈ es) : ∃ t handed, o = some t ∧ .handedOver t handed ∈ es ∧
      layers = Layer.inDrawingOrder handed := by
  obtain ⟨older, sub, ⟨t, handed, owner, handedOver, sorted⟩, _⟩ := h.justified mem
  exact ⟨t, handed, owner, sub _ handedOver, sorted⟩

theorem handed_of_composed (h : Sound es) {reply : Reply} (mem : .composed o reply ∈ es) :
    ∃ t handed, o = some t ∧ .handedOver t handed ∈ es := by
  obtain ⟨requested, taken⟩ := h.taken_of_composed mem
  exact h.handed_of_taken taken

theorem take (h : Sound es) {t : Nat} {layers : List Layer} (handed : .handedOver t layers ∈ es)
    (untaken : ∀ requested, .taken (some t) requested ∉ es) (requested : Visibility) :
    Sound (.taken (some t) requested :: es) :=
  ⟨⟨⟨t, layers, rfl, handed⟩, untaken⟩, h⟩

theorem draw (h : Sound es) {t : Nat} {layers : List Layer} (handed : .handedOver t layers ∈ es)
    (untaken : ∀ requested, .taken (some t) requested ∉ es) {requested : Visibility}
    (visible : requested.isVisible = true) (buffer : LiveBuffer) :
    Sound (.drawn (some t) buffer (Layer.inDrawingOrder layers) :: .taken (some t) requested :: es) := by
  refine ⟨⟨⟨t, layers, rfl, List.mem_cons_of_mem _ handed, rfl⟩,
    ⟨requested, List.mem_cons_self, visible⟩, fun other drawn mem => ?_⟩,
    h.take handed untaken requested⟩
  rcases List.mem_cons.mp mem with same | before
  · cases same
  · obtain ⟨earlier, taken⟩ := h.taken_of_drawn before
    exact untaken earlier taken

/-- Tickets are new when a frame is handed over. -/
theorem handed_first (h : Sound (newer ++ e :: older)) {t : Nat} (about : e.ticket? = some t)
    (layers : List Layer) : .handedOver t layers ∉ newer := by
  intro later
  obtain ⟨latest, between, rfl⟩ := List.append_of_mem later
  rw [List.append_assoc] at h
  exact h.of_append.1 e (by simp) about

/-- A release that returned at once has no frame, then or later. -/
theorem unhanded_of_returned {t : Nat} {outcome : Outcome}
    (h : Sound (newer ++ .returned t outcome :: older)) (fresh : ∀ e ∈ older, e.ticket? ≠ some t)
    (layers : List Layer) : .handedOver t layers ∉ newer ++ .returned t outcome :: older := by
  intro handed
  rcases List.mem_append.mp handed with later | here
  · exact h.handed_first rfl layers later
  · rcases List.mem_cons.mp here with same | earlier
    · cases same
    · exact fresh _ earlier rfl

theorem unhanded_of_refused (h : Sound es) {t : Nat} {e : SessionError}
    (returned : .returned t (.error e) ∈ es) (refusal : e.isRefusal = true) (layers : List Layer) :
    .handedOver t layers ∉ es := by
  have late {older : List Entry} : ¬ Ended older t (.error e) := by
    intro ended
    cases ended <;> cases refusal
  obtain ⟨newer, older, rfl⟩ := List.append_of_mem returned
  rcases h.of_append.1 with unseen | ⟨_, (ended | ⟨⟨⟩, _⟩) | ⟨⟨⟩, _⟩⟩
  · exact h.unhanded_of_returned unseen layers
  · exact absurd ended late
  all_goals cases refusal

theorem handed_unique (h : Sound es) {t : Nat} {layers layers' : List Layer}
    (mem : .handedOver t layers ∈ es) (mem' : .handedOver t layers' ∈ es) : layers = layers' := by
  obtain ⟨newer, older, rfl⟩ := List.append_of_mem mem
  have fresh := h.of_append.1
  rcases List.mem_append.mp mem' with later | here
  · exact absurd later (h.handed_first rfl layers')
  · rcases List.mem_cons.mp here with same | earlier
    · cases same
      rfl
    · exact absurd rfl (fresh _ earlier)

theorem once (h : Sound es) {K : Entry → Prop} (fresh : ∀ older e, K e → Justified older e →
      ∀ f ∈ older, ¬ K f) {f : Entry} (he : e ∈ es) (hf : f ∈ es) (ke : K e) (kf : K f) : e = f := by
  induction es with
  | nil => cases he
  | cons g older ih =>
    rcases List.mem_cons.mp he with rfl | earlier
    · rcases List.mem_cons.mp hf with rfl | earlier
      · rfl
      · exact absurd kf (fresh older _ ke h.1 f earlier)
    · rcases List.mem_cons.mp hf with rfl | earlier'
      · exact absurd ke (fresh older _ kf h.1 e earlier)
      · exact ih h.2 earlier earlier'

theorem taken_unique (h : Sound es) {v v' : Visibility} (mem : .taken o v ∈ es)
    (mem' : .taken o v' ∈ es) : v = v' := by
  have same := h.once (K := fun e => ∃ v, e = .taken o v) (by
    rintro older _ ⟨v, rfl⟩ justified f hf ⟨v', rfl⟩
    exact justified.2 v' hf) mem mem' ⟨v, rfl⟩ ⟨v', rfl⟩
  cases same
  rfl

theorem visible_of_drawn (h : Sound es) {v : Visibility} {buffer : LiveBuffer} {layers : List Layer}
    (mem : .drawn o buffer layers ∈ es) (taken : .taken o v ∈ es) : v.isVisible = true := by
  obtain ⟨older, sub, _, ⟨v', taken', visible⟩, _⟩ := h.justified mem
  rw [h.taken_unique taken (sub _ taken')]
  exact visible

theorem drawn_unique (h : Sound es) {buffer buffer' : LiveBuffer} {layers layers' : List Layer}
    (mem : .drawn o buffer layers ∈ es) (mem' : .drawn o buffer' layers' ∈ es) :
    buffer = buffer' ∧ layers = layers' := by
  have same := h.once (K := fun e => ∃ buffer layers, e = .drawn o buffer layers) (by
    rintro older _ ⟨_, _, rfl⟩ justified f hf ⟨buffer', layers', rfl⟩
    exact justified.2.2 buffer' layers' hf) mem mem' ⟨_, _, rfl⟩ ⟨_, _, rfl⟩
  cases same
  exact ⟨rfl, rfl⟩

end Sound

end DisplaySurface
