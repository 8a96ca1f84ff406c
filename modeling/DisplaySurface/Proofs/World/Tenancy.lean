import DisplaySurface.Bench.Rehearsal
import DisplaySurface.Proofs.Machine.Finality
import DisplaySurface.Proofs.World.Reports

/-!
One display and all the sessions that are ever made on it. The display passes from one session to the
next: it is given back by the shutdown of the one, when the render thread has left, and granted again
when another is made.
-/

namespace DisplaySurface

def Event.isRelinquish {δ : Type} : Event δ → Bool
  | .relinquish => true
  | _ => false

def Closing.given : Closing → Nat
  | closed => 1
  | notYet | joining | relinquishing => 0

def PresentError.IsInjected (reason : String) : Prop :=
  ∃ sequence, reason = (PresentError.injected sequence).message

theorem HeadlessDisplay.present_keeps (resource : UInt64) (frame : Frame) (d : HeadlessDisplay) :
    (Display.present resource frame d).2.owner = d.owner ∧
      (Display.present resource frame d).2.releaseCalls = d.releaseCalls := by
  rcases present_ends resource frame d with ⟨_, ended⟩ | ⟨_, _, ended⟩ | ⟨_, _, ended⟩ <;>
    simp [Display.present, ended, record]

theorem HeadlessDisplay.present_owned {resource : UInt64} {d : HeadlessDisplay}
    (owned : d.owner = some resource) (frame : Frame) :
    (d.present resource frame).1 = .ok () ∨
      (d.present resource frame).1 = .error (.injected frame.sequence) := by
  rcases present_ends resource frame d with ⟨other, _⟩ | ⟨_, _, ended⟩ | ⟨_, _, ended⟩
  · exact absurd owned other
  · exact .inr (by rw [ended])
  · exact .inl (by rw [ended])

theorem HeadlessDisplay.release_calls (id : UInt64) (d : HeadlessDisplay) :
    (Display.release id d).releaseCalls = d.releaseCalls + 1 := by
  simp only [Display.release, HeadlessDisplay.release]
  split <;> rfl

namespace Machine

variable {σ δ : Type}

/-- The number of the display that a session has, from its making until it gives it back. -/
def tenant? (m : Machine σ) : Option UInt64 :=
  if m.closing = .closed then none else some m.info.id

theorem tenant?_congr {m m' : Machine σ} (info : m'.info = m.info)
    (closed : m'.closing = .closed ↔ m.closing = .closed) : m'.tenant? = m.tenant? := by
  simp only [tenant?, info, closed]

variable [Display δ] {m : Machine σ} {d : δ}

inductive Usage (m : Machine σ) (d : δ) (e : Event δ) (c : Machine σ × δ) : Prop where
  | unused (display : c.2 = d) (closed : c.1.closing = .closed ↔ m.closing = .closed)
      (keeps : e.isRelinquish = false)
  | shown (frame) (here : m.phase = .presenting frame)
      (display : c.2 = (Display.present m.resource frame d).2) (closing : c.1.closing = m.closing)
      (keeps : e.isRelinquish = false)
  | givenBack (ready : m.closing = .relinquishing) (display : c.2 = Display.release m.info.id d)
      (closed : c.1.closing = .closed) (gives : e.isRelinquish = true)

namespace Usage

variable {d : HeadlessDisplay} {e : Event HeadlessDisplay} {c : Machine σ × HeadlessDisplay}
  {before behind : List (Machine σ)}

theorem tenants (usage : Usage m d e c) (info : c.1.info = m.info)
    (tenants : (before ++ m :: behind).filterMap tenant? = d.owner.toList) :
    (before ++ c.1 :: behind).filterMap tenant? = c.2.owner.toList := by
  cases usage with
  | unused display closed keeps =>
    rw [display, ← tenants]
    simp only [List.filterMap_append, List.filterMap_cons, tenant?_congr info closed]
  | shown frame here display closing keeps =>
    rw [display, (HeadlessDisplay.present_keeps _ _ _).1, ← tenants]
    simp only [List.filterMap_append, List.filterMap_cons, tenant?_congr info (by rw [closing])]
  | givenBack ready display closed gives =>
    have tenant : m.tenant? = some m.info.id := by simp [tenant?, ready]
    have gone : c.1.tenant? = none := by simp [tenant?, closed]
    simp only [List.filterMap_append, List.filterMap_cons, tenant] at tenants
    cases owner : d.owner with
    | none => simp [owner] at tenants
    | some id =>
      -- There is no other session that could have the display.
      rw [owner, Option.toList_some, List.append_eq_singleton_iff] at tenants
      rcases tenants with ⟨alone, only⟩ | ⟨_, none⟩
      · obtain ⟨rfl, alone'⟩ := List.cons_eq_cons.mp only
        simp [display, Display.release, HeadlessDisplay.release, owner, gone, alone, alone']
      · cases none

theorem released (usage : Usage m d e c)
    (released : d.releaseCalls = (before ++ m :: behind).countP (·.closing = .closed)) :
    c.2.releaseCalls = (before ++ c.1 :: behind).countP (·.closing = .closed) := by
  rw [List.countP_append, List.countP_cons] at released ⊢
  cases usage with
  | unused display closed keeps => simp only [display, closed, released]
  | shown frame here display closing keeps =>
    simp only [display, (HeadlessDisplay.present_keeps _ _ _).2, closing, released]
  | givenBack ready display closed gives =>
    rw [display, HeadlessDisplay.release_calls, released]
    simp [ready, closed]
    omega

end Usage

variable [Renderer σ]

/-- A session uses its display to show a frame, and to give it back with the end of a shutdown. -/
theorem step_usage {e : Event δ} {c : Machine σ × δ} (winding : Winding m)
    (own : ∀ d', e ≠ .outside d') (move : Move m d e c) : Usage m d e c := by
  cases move with
  | presented frame d' here reply | presentFailed frame d' reason here reply
  | presentBroke frame d' here reply =>
    exact .shown frame here (by simp [reply]) rfl rfl
  | relinquish ready => exact .givenBack ready rfl rfl rfl
  | join joining => exact .unused rfl (by simp [joining]) rfl
  | shutdownRunning alive | shutdownHalted alive =>
    exact .unused rfl (by simp [winding.alive_notYet alive]) rfl
  | outside d' => exact absurd rfl (own d')
  | _ => exact .unused rfl Iff.rfl rfl

theorem step_relinquish {e : Event δ} {c : Machine σ × δ} (h : Winding m) (move : Move m d e c) :
    [e].countP (·.isRelinquish) + m.closing.given = c.1.closing.given := by
  cases move with
  | shutdownRunning alive | shutdownHalted alive =>
    simp [Event.isRelinquish, h.alive_notYet alive, Closing.given]
  | join joining => simp [Event.isRelinquish, joining, Closing.given]
  | relinquish ready => simp [Event.isRelinquish, ready, Closing.given]
  | _ => simp [Event.isRelinquish, wakeCallers, wakeAll]

end Machine

/-- A display and the sessions that were made on it, the latest last. -/
structure Tenancy (σ : Type) where
  display : HeadlessDisplay := {}
  sessions : List (Machine σ) := []

inductive Turn (σ : Type) where
  | create (info : DisplayInfo) (shape : BufferShape) (renderer : σ)
  | act (i : Nat) (e : Event HeadlessDisplay)
  | failNext (n : Nat)
  | refuse

def Event.isOutside {δ : Type} : Event δ → Bool
  | .outside _ => true
  | _ => false

def Turn.relinquishes {σ : Type} (i : Nat) : Turn σ → Bool
  | act j e => j = i && e.isRelinquish
  | create _ _ _ | failNext _ | refuse => false

namespace Tenancy

variable {σ : Type}

def Enabled (t : Tenancy σ) : Turn σ → Prop
  | .create _ _ _ | .failNext _ | .refuse => True
  | .act i e => e.isOutside = false ∧ ∃ m ∈ t.sessions[i]?, m.Enabled e

instance (t : Tenancy σ) (turn : Turn σ) : Decidable (t.Enabled turn) := by
  cases turn <;> unfold Enabled <;> infer_instance

def next [Renderer σ] (t : Tenancy σ) : Turn σ → Tenancy σ
  | .create info shape renderer =>
    match Machine.create info shape renderer t.display with
    | (.ok m, display) => { display, sessions := t.sessions ++ [m] }
    | (.error _, display) => { t with display }
  | .act i e =>
    match t.sessions[i]? with
    | some m =>
      let c := m.next t.display e
      { display := c.2, sessions := t.sessions.set i c.1 }
    | none => t
  | .failNext n => { t with display := t.display.failNext n }
  | .refuse => { t with display := t.display.refuse }

def system (σ : Type) [Renderer σ] : System (Tenancy σ) (Turn σ) where
  Enabled := Enabled
  next := next

instance [Renderer σ] (t : Tenancy σ) (turn : Turn σ) : Decidable ((system σ).Enabled t turn) :=
  inferInstanceAs (Decidable (t.Enabled turn))

def given (t : Tenancy σ) (i : Nat) : Nat :=
  (t.sessions[i]?).elim 0 (·.closing.given)

theorem given_append (t : Tenancy σ) (display : HeadlessDisplay) (info : DisplayInfo)
    (resource : UInt64) (shape : BufferShape) (renderer : σ) (i : Nat) :
    given ⟨display, t.sessions ++ [Machine.fresh info resource shape renderer]⟩ i = t.given i := by
  rcases Nat.lt_trichotomy i t.sessions.length with older | newest | later
  · simp [given, List.getElem?_append_left older]
  · simp [given, newest, Machine.fresh, Closing.given]
  · have beyond : t.sessions[i]? = none := List.getElem?_eq_none (by omega)
    have outside : (t.sessions ++ [Machine.fresh info resource shape renderer])[i]? = none :=
      List.getElem?_eq_none (by simp; omega)
    simp [given, beyond, outside]

theorem next_act [Renderer σ] {t : Tenancy σ} {i : Nat} {m : Machine σ} (there : t.sessions[i]? = some m)
    (e : Event HeadlessDisplay) : t.next (.act i e) =
      { display := (m.next t.display e).2, sessions := t.sessions.set i (m.next t.display e).1 } := by
  simp [next, there]

/-- The display belongs to the session that has not given it back, if there is one, and there is no
second one. -/
structure Orderly (t : Tenancy σ) : Prop where
  winding : ∀ m ∈ t.sessions, m.Winding
  granted : ∀ m ∈ t.sessions, m.resource = m.info.id
  tenants : t.sessions.filterMap Machine.tenant? = t.display.owner.toList
  released : t.display.releaseCalls = t.sessions.countP (·.closing = .closed)
  genuine : ∀ m ∈ t.sessions, ∀ reason, m.Reports (.presentFailed reason) →
    PresentError.IsInjected reason

namespace Orderly

theorem initial : Orderly ({} : Tenancy σ) := by
  constructor <;> simp

variable {t : Tenancy σ}

theorem spared (h : Orderly t) {d : HeadlessDisplay} (owner : d.owner = t.display.owner)
    (released : d.releaseCalls = t.display.releaseCalls) : Orderly { t with display := d } :=
  { h with
    tenants := h.tenants.trans (by rw [owner])
    released := released.trans h.released }

theorem created (h : Orderly t) {info : DisplayInfo} {shape : BufferShape} {renderer : σ}
    {d : HeadlessDisplay} (free : t.display.owner = none) (owner : d.owner = some info.id)
    (released : d.releaseCalls = t.display.releaseCalls) :
    Orderly { display := d, sessions := t.sessions ++ [Machine.fresh info info.id shape renderer] } := by
  have alone := h.tenants
  rw [free] at alone
  constructor
  · intro m mem
    rcases List.mem_append.mp mem with old | new
    · exact h.winding m old
    · obtain rfl := List.mem_singleton.mp new
      exact .initial _ _ _ _
  · intro m mem
    rcases List.mem_append.mp mem with old | new
    · exact h.granted m old
    · obtain rfl := List.mem_singleton.mp new
      rfl
  · simp [List.filterMap_append, alone, owner, Machine.tenant?, Machine.fresh]
  · simp [released, h.released, Machine.fresh]
  · intro m mem reason reports
    rcases List.mem_append.mp mem with old | new
    · exact h.genuine m old reason reports
    · obtain rfl := List.mem_singleton.mp new
      exact absurd reports (Machine.not_reports_fresh _ _ _ _ _)

theorem owner_of_open (h : Orderly t) {m : Machine σ} (mem : m ∈ t.sessions)
    (unclosed : m.closing ≠ .closed) : t.display.owner = some m.info.id := by
  have tenant : m.info.id ∈ t.sessions.filterMap Machine.tenant? :=
    List.mem_filterMap.mpr ⟨m, mem, by simp [Machine.tenant?, unclosed]⟩
  rw [h.tenants] at tenant
  simpa using tenant

theorem unclosed_of_presenting (h : Orderly t) {m : Machine σ} (mem : m ∈ t.sessions) {frame : Frame}
    (here : m.phase = .presenting frame) : m.closing ≠ .closed := by
  intro closed
  have left := (h.winding m mem).left (.inr closed)
  simp [here, Phase.isOver] at left

theorem owner_of_presenting (h : Orderly t) {m : Machine σ} (mem : m ∈ t.sessions) {frame : Frame}
    (here : m.phase = .presenting frame) : t.display.owner = some m.resource := by
  rw [h.granted m mem]
  exact h.owner_of_open mem (h.unclosed_of_presenting mem here)

theorem injected (h : Orderly t) {m : Machine σ} (mem : m ∈ t.sessions) {frame : Frame}
    {reason : String} (here : m.phase = .presenting frame)
    (reply : (Display.present m.resource frame t.display).1 = .failed reason) :
    PresentError.IsInjected reason := by
  have owned := h.owner_of_presenting mem here
  rcases answer : t.display.present m.resource frame with ⟨_ | _, d⟩
  · rcases HeadlessDisplay.present_owned owned frame with done | failed
    · simp [answer] at done
    · simp only [Display.present, answer] at reply
      rw [answer] at failed
      cases failed
      cases reply
      exact ⟨frame.sequence, rfl⟩
  · simp only [Display.present, answer] at reply
    cases reply

end Orderly

variable [Renderer σ] {t : Tenancy σ}

theorem act_orderly (h : Orderly t) {i : Nat} {e : Event HeadlessDisplay}
    (enabled : t.Enabled (.act i e)) : Orderly (t.next (.act i e)) := by
  obtain ⟨inside, m, present, enabled⟩ := enabled
  have there : t.sessions[i]? = some m := present
  have mem : m ∈ t.sessions := List.mem_of_getElem? there
  have winding := h.winding m mem
  have move := Machine.next_move m t.display e enabled
  have own : ∀ d', e ≠ .outside d' := by
    rintro d' rfl
    cases inside
  rw [next_act there]
  generalize m.next t.display e = c at move
  obtain ⟨info, resource⟩ := Machine.step_keeps_info move
  obtain ⟨bound, rfl⟩ := List.getElem?_eq_some_iff.mp there
  obtain ⟨before, behind, split, -, set⟩ := @List.exists_of_set _ _ c.1 _ bound
  have tenants := h.tenants
  have released := h.released
  rw [split] at tenants released
  have usage := Machine.step_usage winding own move
  constructor
  · intro m' mem'
    rcases List.mem_or_eq_of_mem_set mem' with old | rfl
    · exact h.winding m' old
    · exact Machine.step_preserves_winding winding move
  · intro m' mem'
    rcases List.mem_or_eq_of_mem_set mem' with old | rfl
    · exact h.granted m' old
    · rw [resource, info]
      exact h.granted _ mem
  · rw [set]
    exact usage.tenants info tenants
  · rw [set]
    exact usage.released released
  · intro m' mem' reason reports
    rcases List.mem_or_eq_of_mem_set mem' with old | rfl
    · exact h.genuine m' old reason reports
    · rcases Machine.step_reports move reports with before | ⟨frame, here, reply⟩
      · exact h.genuine _ mem reason before
      · exact h.injected mem here reply

theorem step_orderly (h : Orderly t) {turn : Turn σ} (enabled : t.Enabled turn) :
    Orderly (t.next turn) := by
  cases turn with
  | create info shape renderer =>
    rcases Machine.create_cases info shape renderer t.display with ⟨_, _, bad⟩ | ⟨_, _, _, refused⟩ |
      ⟨_, _, free, made⟩
    · simp only [next, bad]
      exact h
    · simp only [next, refused]
      exact h.spared rfl rfl
    · simp only [next, made]
      exact h.created free rfl rfl
  | act i e => exact act_orderly h enabled
  | failNext n => exact h.spared rfl rfl
  | refuse => exact h.spared rfl rfl

theorem step_given (h : Orderly t) {turn : Turn σ} (enabled : t.Enabled turn) (i : Nat) :
    [turn].countP (·.relinquishes i) + t.given i = (t.next turn).given i := by
  cases turn with
  | create info shape renderer =>
    rcases Machine.create_cases info shape renderer t.display with ⟨_, _, bad⟩ | ⟨_, _, _, refused⟩ |
      ⟨_, _, _, made⟩
    · simp [Turn.relinquishes, given, next, bad]
    · simp [Turn.relinquishes, given, next, refused]
    · simp only [next, made]
      rw [given_append]
      simp [Turn.relinquishes]
  | act j e =>
    obtain ⟨inside, m, present, enabled⟩ := enabled
    have there : t.sessions[j]? = some m := present
    have bound := (List.getElem?_eq_some_iff.mp there).1
    have counted := Machine.step_relinquish (h.winding m (List.mem_of_getElem? there))
      (Machine.next_move m t.display e enabled)
    rw [next_act there]
    by_cases same : j = i
    · subst same
      rw [given, given, there, List.getElem?_set_self bound]
      simpa [Turn.relinquishes] using counted
    · simp [Turn.relinquishes, given, same]
  | failNext n | refuse => simp [Turn.relinquishes, given, next]

theorem trace_orderly (h : Orderly t) {turns : List (Turn σ)} (valid : (system σ).Valid t turns) :
    Orderly ((system σ).run t turns) ∧ ∀ i, turns.countP (·.relinquishes i) + t.given i =
      ((system σ).run t turns).given i := by
  induction turns generalizing t with
  | nil => exact ⟨h, by simp⟩
  | cons turn turns ih =>
    obtain ⟨orderly, given⟩ := ih (step_orderly h valid.1) valid.2
    refine ⟨orderly, fun i => ?_⟩
    have first := step_given h valid.1 i
    have split : (turn :: turns).countP (·.relinquishes i) =
        [turn].countP (·.relinquishes i) + turns.countP (·.relinquishes i) := by
      rw [← List.countP_append]
      rfl
    calc (turn :: turns).countP (·.relinquishes i) + t.given i
        = turns.countP (·.relinquishes i) + ([turn].countP (·.relinquishes i) + t.given i) := by omega
      _ = turns.countP (·.relinquishes i) + ((system σ).next t turn).given i := by
          rw [first]
          rfl
      _ = ((system σ).run t (turn :: turns)).given i := given i

/-- A display has one owner at a time, whatever its sessions do and in whatever order. It is acquired
exactly while there is a session that has not given it back, under the number of that session. Who is not
granted the display leaves it as it is but for the count of the attempt, and who asks with a bad shape
does not touch it. Every session gives it back once, with its first shutdown, and frames are refused only
where the display was told to. -/
theorem display_has_one_owner {turns : List (Turn σ)} (valid : (system σ).Valid {} turns)
    (reached : (system σ).run {} turns = t) :
    t.sessions.countP (·.closing ≠ .closed) ≤ 1 ∧
    t.sessions.filterMap Machine.tenant? = t.display.owner.toList ∧
    (∀ info shape renderer cause, shape.check = .error cause →
      (Machine.create info shape renderer t.display).1 = .error (.badShape cause) ∧
        t.next (.create info shape renderer) = t) ∧
    (∀ info shape renderer id cause,
      (Machine.create info shape renderer t.display).1 = .error (.notAcquired id cause) →
        t.next (.create info shape renderer) =
          { t with display := { t.display with acquireCalls := t.display.acquireCalls + 1 } }) ∧
    t.display.releaseCalls = t.sessions.countP (·.closing = .closed) ∧
    (∀ i, turns.countP (·.relinquishes i) = t.given i) ∧
    (∀ m ∈ t.sessions, ∀ frame, m.phase = .presenting frame → ∀ resource,
      (t.display.present m.resource frame).1 ≠ .error (.notAcquired resource)) ∧
    (∀ m ∈ t.sessions, ∀ reason, m.Reports (.presentFailed reason) ∨
      (∃ e : Event HeadlessDisplay, m.failure? e = some (.presentFailed reason)) →
        PresentError.IsInjected reason) := by
  obtain ⟨h, given⟩ := trace_orderly .initial valid
  rw [reached] at h given
  refine ⟨?_, h.tenants, ?_, ?_, h.released, ?_, ?_, ?_⟩
  · have open_iff : t.sessions.countP (·.closing ≠ .closed) =
        (t.sessions.filterMap Machine.tenant?).length := by
      rw [List.length_filterMap_eq_countP]
      congr 1
      funext m
      by_cases closed : m.closing = .closed <;> simp [Machine.tenant?, closed]
    rw [open_iff, h.tenants]
    cases t.display.owner <;> simp
  · intro info shape renderer cause bad
    have refused : Machine.create info shape renderer t.display = (.error (.badShape cause), t.display) := by
      simp [Machine.create, bad]
    exact ⟨by rw [refused], by simp [next, refused]⟩
  · intro info shape renderer id cause error
    rcases Machine.create_cases info shape renderer t.display with ⟨_, _, bad⟩ | ⟨_, _, _, refused⟩ |
      ⟨_, _, _, made⟩
    · simp [bad] at error
    · simp only [next, refused]
    · simp [made] at error
  · intro i
    exact given i
  · intro m mem frame here resource refused
    rcases HeadlessDisplay.present_owned (h.owner_of_presenting mem here) frame with done | failed
    · simp [refused] at done
    · simp [refused] at failed
  · rintro m mem reason (reports | ⟨e, returns⟩)
    · exact h.genuine m mem reason reports
    · exact h.genuine m mem reason (.published (Machine.published_of_failure returns))

/-- A session has the display until it is shut down, and meanwhile nobody else is granted it; then it goes
to another. Its last frame is refused by an injected failure. -/
theorem display_has_one_owner_after_handover :
    let panel : DisplayInfo := ⟨1, "panel", 4, 2, 0⟩
    let screen : DisplayInfo := ⟨2, "screen", 4, 2, 0⟩
    let shape : BufferShape := ⟨4, 2, 1, .rgba8888, .none, 4⟩
    let first : List (Turn Rehearsal) :=
      [.create panel shape {}, .act 0 (.setState .visible .started), .act 0 .acquire, .failNext 1,
        .act 0 (.release 0 ⟨shape, 1, 1, []⟩), .create screen shape {}, .act 0 .work, .act 0 .work,
        .act 0 .work, .act 0 .work, .act 0 .work, .act 0 .work, .act 0 (.resume 0), .act 0 .shutdown]
    let second : List (Turn Rehearsal) :=
      [.act 0 .work, .act 0 .work, .act 0 .join, .act 0 .relinquish, .create screen shape {}]
    let t := (system Rehearsal).run {} (first ++ second)
    (system Rehearsal).Valid {} (first ++ second) ∧
      ((system Rehearsal).run {} first).display.owner = some 1 ∧ t.display.owner = some 2 ∧
      t.sessions.filterMap Machine.tenant? = [2] ∧ t.display.acquireCalls = 3 ∧
      t.display.releaseCalls = 1 ∧ (first ++ second).countP (·.relinquishes 0) = 1 ∧
      ∃ m ∈ t.sessions, ∃ reason, (0, .error (.presentFailed reason)) ∈ m.returned ∧
        PresentError.IsInjected reason := by
  intro panel screen shape first second t
  have valid : (system Rehearsal).Valid {} (first ++ second) := by decide
  obtain ⟨-, tenants, -, -, -, -, -, genuine⟩ := display_has_one_owner valid (show _ = t from rfl)
  have told : t.sessions.any (fun m => m.returned.any fun r =>
      r = (0, .error (.presentFailed "injected present failure for frame 1"))) = true := by decide
  obtain ⟨m, mem, told⟩ := List.any_eq_true.mp told
  obtain ⟨r, returned, same⟩ := List.any_eq_true.mp told
  rw [of_decide_eq_true same] at returned
  have owner : t.display.owner = some 2 := by decide
  refine ⟨valid, by decide, owner, ?_, by decide, by decide, by decide, m, mem, _, returned, ?_⟩
  · exact tenants.trans (congrArg Option.toList owner)
  · exact genuine m mem _ (.inl (.returned 0 returned))

end Tenancy

end DisplaySurface
