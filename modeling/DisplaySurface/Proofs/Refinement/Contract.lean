import Mathlib.Data.Fintype.EquivFin
import DisplaySurface.Bench.Rehearsal
import DisplaySurface.Proofs.Refinement.Simulation

/-!
What a single caller can rely on. Every call returns what it would without a render thread, in whatever
order the thread and the caller go on, and it does return.
-/

namespace DisplaySurface

/-- How many steps the thread can make from here, until it is parked or gone, without a new frame. -/
def Phase.patience : Phase → Nat
  | absent | gone => 0
  | leaving _ => 2
  | failing _ | parked => 3
  | seeking => 4
  | starting _ => 5
  | created | publishing _ => 6
  | presenting _ => 7
  | composing _ => 8

def Closing.patience : Closing → Nat
  | joining => 2
  | relinquishing => 1
  | notYet | closed => 0

def Handoff.patience : Handoff → Nat
  | ready _ => 5
  | idle | rendering | done _ => 0

theorem Event.not_stray_of_progress {δ : Type} (e : Event δ) (progress : e.isProgress = true) :
    e.isStray = false := by
  cases e <;> first | rfl | cases progress

theorem Handoff.patience_finish (h : Handoff) (outcome : Outcome) :
    (h.finish outcome).2.patience ≤ h.patience := by
  cases h <;> simp [finish, patience]

theorem Handoff.patience_collect (h : Handoff) : h.collect.2.withdraw.patience = 0 := by
  cases h <;> rfl

namespace Machine

variable {σ δ : Type}

def patience (m : Machine σ) : Nat :=
  m.phase.patience + m.shared.handoff.patience + m.waiters.countP (!·.parked) + m.closing.patience

theorem patience_le {m : Machine σ} (few : m.waiters.length ≤ 1) : m.patience ≤ 16 := by
  have phase : m.phase.patience ≤ 8 := by cases m.phase <;> simp [Phase.patience]
  have handoff : m.shared.handoff.patience ≤ 5 := by
    cases m.shared.handoff <;> simp [Handoff.patience]
  have waiters : m.waiters.countP (!·.parked) ≤ 1 := Nat.le_trans List.countP_le_length few
  have closing : m.closing.patience ≤ 2 := by cases m.closing <;> simp [Closing.patience]
  unfold patience
  omega

theorem fresh_of_create {info : DisplayInfo} {shape : BufferShape} {start : σ} {d₀ d : HeadlessDisplay}
    {m : Machine σ} (made : create info shape start d₀ = (.ok m, d)) :
    m = fresh info info.id shape start := by
  rcases create_cases info shape start d₀ with ⟨_, _, bad⟩ | ⟨_, _, _, refused⟩ | ⟨_, _, _, granted⟩
  · simp [bad] at made
  · simp [refused] at made
  · rw [granted] at made
    cases made
    rfl

theorem eq_singleton_of_few {waiters : List Waiter} (few : waiters.length ≤ 1) {w : Waiter}
    (mem : w ∈ waiters) : waiters = [w] := by
  obtain ⟨only, rfl⟩ := List.length_eq_one_iff.mp
    (Nat.le_antisymm few (List.length_pos_of_mem mem))
  rw [List.mem_singleton.mp mem]

theorem awake_of_few {waiters : List Waiter} (few : waiters.length ≤ 1) :
    (waiters.map fun w => { w with parked := false }).countP (!·.parked) ≤ 1 :=
  Nat.le_trans List.countP_le_length (by rwa [List.length_map])

variable [Renderer σ] [Display δ] {m : Machine σ} {d : δ}

/-- Where no more than one caller waits, every step of a thread that has work to do is one of finitely
many, and a stray wake-up adds one. -/
theorem step_patience {e : Event δ} {c : Machine σ × δ} (few : m.waiters.length ≤ 1)
    (move : Move m d e c) : (e.isProgress = true → c.1.patience < m.patience) ∧
      (e.isStray = true → c.1.patience ≤ m.patience + 1) := by
  have woken := awake_of_few few
  cases move with
  | begin here | started _ _ here | startFailed _ _ _ here | startBroke _ _ here | recordFault _ here
  | park here | stop here | composed _ _ here | composeFailed _ _ _ here | composeBroke _ _ here
  | presented _ _ here | presentFailed _ _ _ here | presentBroke _ _ here =>
    refine ⟨fun _ => ?_, by simp [Event.isStray]⟩
    simp [patience, here, Phase.patience, Session.recordFault]
  | take _ here _ ready | skip _ here _ ready =>
    refine ⟨fun _ => ?_, by simp [Event.isStray]⟩
    simp [patience, here, ready, Phase.patience, Handoff.patience]
  | publish r here =>
    refine ⟨fun _ => ?_, by simp [Event.isStray]⟩
    have handoff := m.shared.handoff.patience_finish r.outcome
    simp only [patience, wakeCallers, here, Phase.patience, Session.finishFrame]
    omega
  | leave crashed here =>
    refine ⟨fun _ => ?_, by simp [Event.isStray]⟩
    simp only [patience, wakeAll, here, Phase.patience, Phase.notified, Session.exit_handoff,
      Handoff.patience]
    omega
  | waitOn ticket wakes =>
    refine ⟨fun _ => ?_, by simp [Event.isStray]⟩
    simp [patience, eq_singleton_of_few few wakes]
  | collect ticket wakes =>
    refine ⟨fun _ => ?_, by simp [Event.isStray]⟩
    have alone := eq_singleton_of_few few wakes
    have before : m.waiters.countP (!·.parked) = 1 := by simp [alone]
    have after : (m.waiters.filter fun w => w.ticket ≠ ticket).countP (!·.parked) = 0 := by simp [alone]
    simp only [patience, Session.collect_handoff, Handoff.patience_collect, before, after]
    omega
  | join joining =>
    refine ⟨fun _ => ?_, by simp [Event.isStray]⟩
    simp [patience, joining, Closing.patience]
  | relinquish ready =>
    refine ⟨fun _ => ?_, by simp [Event.isStray]⟩
    simp [patience, ready, Closing.patience]
  | strayWakeRender here =>
    refine ⟨by simp [Event.isProgress], fun _ => ?_⟩
    simp only [patience, here, Phase.patience]
    omega
  | strayWakeCaller ticket parked =>
    refine ⟨by simp [Event.isProgress], fun _ => ?_⟩
    simp [patience, eq_singleton_of_few few parked]
    omega
  | _ => simp [Event.isProgress, Event.isStray]

end Machine

namespace Solo

variable {σ : Type} [Renderer σ] (paint : Paint) (start : σ)

/-- The answers are those of a session without a thread, and with the call that has not returned, if there
is one, the session is on its way to the next of them. -/
inductive Matches (r₀ : Inline) (s : Solo σ) : Prop
  | idle (task : s.task = .idle) (log : s.log = r₀.answers paint s.issued)
      (rest : Rest paint start s.machine s.display (r₀.after paint s.issued))
  | releasing (ticket : Nat) (b : Checkout) (cs : List Call) (task : s.task = .releasing ticket)
      (issued : s.issued = cs ++ [.release b]) (log : s.log = r₀.answers paint cs)
      (errand : Errand paint start ticket b s.machine s.display (r₀.after paint cs))
  | closing (cs : List Call) (task : s.task = .closing) (issued : s.issued = cs ++ [.shutdown])
      (log : s.log = r₀.answers paint cs)
      (departure : Departure paint start s.machine s.display (r₀.after paint cs))

/-- The renderer starts on every buffer that is live between the calls made so far. -/
def Suited (r₀ : Inline) (cs : List Call) : Prop :=
  ∀ done, done <+: cs → Renderer.Suits paint start (r₀.after paint done).slot.live.shape

variable {paint start} {r₀ : Inline} {s : Solo σ}

theorem Suited.before {cs cs' : List Call} (h : Suited paint start r₀ cs') (earlier : cs <+: cs') :
    Suited paint start r₀ cs :=
  fun done before => h done (before.trans earlier)

theorem Suited.now {cs : List Call} (h : Suited paint start r₀ cs) :
    Renderer.Suits paint start (r₀.after paint cs).slot.live.shape :=
  h cs (List.prefix_refl cs)

theorem lookup_none {ticket : Nat} {returned : List (Nat × Outcome)}
    (unreturned : ticket ∉ returned.map (·.1)) : returned.lookup ticket = none := by
  rw [List.lookup_eq_none_iff]
  intro r mem
  rw [bne_iff_ne]
  rintro rfl
  exact unreturned (List.mem_map_of_mem mem)

theorem Departure.unclosed {m : Machine σ} {d : HeadlessDisplay} {r : Inline}
    (h : Departure paint start m d r) : m.closing ≠ .closed := by
  cases h with
  | joining _ _ _ _ _ closing | relinquishing _ _ _ _ closing => simp [closing]

theorem Warm.canWork {past : List Painting} {p : Phase} {renderer : σ}
    (h : Warm paint start past p renderer) (awake : p ≠ .parked) : p.canWork = true := by
  cases h with
  | parked => exact absurd rfl awake
  | created | starting | seeking => rfl

namespace Matches

theorem initial (id : UInt64) (shape : BufferShape) (d : HeadlessDisplay) (info : DisplayInfo)
    (same : info.id = id) :
    Matches paint start { id, slot := Slot.new shape, display := d }
      { machine := Machine.fresh info id shape start, display := d } :=
  .idle rfl rfl
    { agrees := by constructor <;> first | exact same | rfl
      idle := rfl
      alone := rfl
      footing := .absent rfl rfl rfl rfl rfl rfl rfl }

theorem returned {cs : List Call} {c : Call} {a : Answer} (issued : s.issued = cs ++ [c])
    (log : s.log = r₀.answers paint cs) (answer : a = ((r₀.after paint cs).step paint c).1)
    (rest : Rest paint start s.machine s.display ((r₀.after paint cs).step paint c).2) :
    Matches paint start r₀ (s.answered (some a)) := by
  refine .idle rfl ?_ ?_
  · simp only [answered, issued, Inline.answers_concat, log, answer, rest.agrees.view]
  · simp only [answered, issued, Inline.after_concat]
    exact rest

theorem few (h : Matches paint start r₀ s) : s.machine.waiters.length ≤ 1 := by
  cases h with
  | idle _ _ rest => simp [rest.alone]
  | releasing _ _ _ _ _ _ errand =>
    obtain ⟨_, waiting⟩ := errand.waiting
    simp [waiting]
  | closing _ _ _ _ departure =>
    cases departure with
    | joining _ _ _ _ alone | relinquishing _ _ _ alone => simp [alone]

theorem call (h : Matches paint start r₀ s) {ticket : Nat} {c : Call}
    (enabled : s.Enabled (.call ticket c)) : Matches paint start r₀ (s.next (.call ticket c)) := by
  obtain ⟨task, enabled⟩ := enabled
  cases h with
  | releasing _ _ _ task' | closing _ task' => simp [task] at task'
  | idle _ log rest =>
    cases c with
    | setState wanted =>
      obtain ⟨answer, rest'⟩ := rest.setState wanted
      exact returned rfl log (congrArg Answer.ended answer) rest'
    | acquire =>
      obtain ⟨answer, rest'⟩ := rest.acquire
      exact returned rfl log (congrArg Answer.lent answer) rest'
    | fill b layers => exact returned rfl log rfl rest
    | reallocate shape =>
      obtain ⟨answer, rest'⟩ := rest.reallocate shape
      exact returned rfl log (congrArg Answer.replaced answer) rest'
    | failNext n => exact returned rfl log rfl (rest.failNext n)
    | release b =>
      let t : Solo σ := { s.moved (.release ticket b) with
        task := .releasing ticket, issued := s.issued ++ [.release b] }
      rcases rest.release ticket b (Machine.unused_of_enabled enabled).2 with ⟨outcome, rest'⟩ | errand
      · have returns : s.next (.call ticket (.release b)) =
            t.answered (some (.ended (.returned ((r₀.after paint s.issued).release paint b).1))) := by
          have found : (s.machine.release ticket b).returned = _ := outcome
          simp [t, next, moved, Machine.next, Call.event, Call.answer?, Call.task, Task.answer?, found]
        rw [returns]
        exact returned rfl log rfl rest'
      · have waits : s.next (.call ticket (.release b)) = t := by
          have nothing := lookup_none errand.unreturned
          simp [t, next, moved, Machine.next, Call.event, Call.answer?, Call.task, Task.answer?,
            nothing, answered]
        rw [waits]
        exact .releasing ticket b s.issued rfl rfl log errand
    | shutdown =>
      let t : Solo σ := { s.moved .shutdown with task := .closing, issued := s.issued ++ [.shutdown] }
      rcases rest.shutdown with ⟨dead, same, same'⟩ | ⟨alive, departure⟩
      · have returns : s.next (.call ticket .shutdown) = t.answered (some .ok) := by
          simp [t, next, Call.event, Call.answer?, Call.task, rest.agrees.dead dead]
        rw [returns]
        refine returned rfl log rfl ?_
        simpa [t, moved, Machine.next, Inline.step, same, same'] using rest
      · have waits : s.next (.call ticket .shutdown) = t := by
          have unclosed := departure.unclosed
          simp [t, next, moved, Machine.next, Call.event, Call.answer?, Call.task, Task.answer?,
            rest.agrees.alive alive, unclosed, answered]
        rw [waits]
        exact .closing s.issued rfl rfl log departure

theorem go (h : Matches paint start r₀ s) (suited : Suited paint start r₀ s.issued)
    {e : Event HeadlessDisplay} (enabled : s.Enabled (.go e)) :
    Matches paint start r₀ (s.next (.go e)) := by
  obtain ⟨own, enabled⟩ := enabled
  cases h with
  | idle task log rest =>
    have quiet : s.next (.go e) = s.moved e := by simp [next, task, Task.answer?, answered]
    rw [quiet]
    exact .idle task log (rest.go suited.now own enabled)
  | releasing ticket b cs task issued log errand =>
    have suits := (suited.before ⟨_, issued.symm⟩).now
    rcases errand.go suits own enabled with errand | ⟨outcome, rest⟩
    · have waits : s.next (.go e) = s.moved e := by
        have nothing : (s.moved e).machine.returned.lookup ticket = none := lookup_none errand.unreturned
        simp [next, task, Task.answer?, nothing, answered]
      rw [waits]
      exact .releasing ticket b cs task issued log errand
    · have returns : s.next (.go e) = (s.moved e).answered
          (some (.ended (.returned ((r₀.after paint cs).release paint b).1))) := by
        have found : (s.moved e).machine.returned = _ := outcome
        simp [next, task, Task.answer?, found]
      rw [returns]
      exact returned issued log rfl rest
  | closing cs task issued log departure =>
    have suits := (suited.before ⟨_, issued.symm⟩).now
    rcases departure.go suits own enabled with departure | ⟨closed, rest⟩
    · have waits : s.next (.go e) = s.moved e := by
        have unclosed : (s.moved e).machine.closing ≠ .closed := departure.unclosed
        simp [next, task, Task.answer?, unclosed, answered]
      rw [waits]
      exact .closing cs task issued log departure
    · have returns : s.next (.go e) = (s.moved e).answered (some .ok) := by
        have closed : (s.moved e).machine.closing = .closed := closed
        simp [next, task, Task.answer?, closed]
      rw [returns]
      exact returned issued log rfl rest

theorem goes_on (h : Matches paint start r₀ s) (busy : s.task ≠ .idle) :
    ∃ e : Event HeadlessDisplay, e.isProgress = true ∧ s.Enabled (.go e) := by
  cases h with
  | idle task => exact absurd task busy
  | releasing ticket b cs task issued log errand =>
    have working (works : s.machine.phase.canWork = true) :
        ∃ e : Event HeadlessDisplay, e.isProgress = true ∧ s.Enabled (.go e) :=
      ⟨.work, rfl, rfl, works⟩
    cases errand.place with
    | asked _ _ warm awake => exact working (warm.canWork awake)
    | composing _ _ here | presenting _ _ here | publishing _ _ _ _ _ _ _ _ here =>
      exact working (by simp [here, Phase.canWork])
    | done _ _ _ _ _ _ _ _ woken =>
      exact ⟨.resume ticket, rfl, rfl, by simp [Machine.Enabled, Machine.hasWaiter, woken]⟩
  | closing cs task issued log departure =>
    cases departure with
    | relinquishing _ _ _ _ closing => exact ⟨.relinquish, rfl, rfl, closing⟩
    | joining _ _ _ _ _ closing way =>
      cases way with
      | warm warm awake => exact ⟨.work, rfl, rfl, warm.canWork awake⟩
      | leaving here => exact ⟨.work, rfl, rfl, by simp [Machine.Enabled, here, Phase.canWork]⟩
      | away left => exact ⟨.join, rfl, rfl, closing, left⟩

theorem callable (h : Matches paint start r₀ s) (free : s.task = .idle) (c : Call) :
    ∃ ticket, s.Enabled (.call ticket c) := by
  cases h with
  | releasing _ _ _ task | closing _ task => simp [free] at task
  | idle task log rest =>
    obtain ⟨ticket, fresh⟩ :=
      Infinite.exists_notMem_finset (s.machine.returned.map (·.1)).toFinset
    refine ⟨ticket, task, ?_⟩
    cases c with
    | release b =>
      have unreturned : ∀ r ∈ s.machine.returned, r.1 ≠ ticket := by
        rintro r mem rfl
        exact fresh (List.mem_toFinset.mpr (List.mem_map_of_mem mem))
      simpa [Call.event, Machine.Enabled, rest.alone] using unreturned
    | _ => trivial

theorem log (h : Matches paint start r₀ s) : s.log = r₀.answers paint s.completed := by
  cases h with
  | idle task log => simpa [completed, task] using log
  | releasing _ _ _ task issued log | closing _ task issued log =>
    simpa [completed, task, issued] using log

end Matches

theorem issued_grows (s : Solo σ) (act : Act) : s.issued <+: (s.next act).issued := by
  cases act with
  | call ticket c =>
    rw [next, (issued_answered _ _).1]
    exact List.prefix_append s.issued [c]
  | go e =>
    rw [next, (issued_answered _ _).1]
    exact List.prefix_refl s.issued

theorem reachable_matches {s₀ : Solo σ} (h₀ : Matches paint start r₀ s₀)
    (h : (system σ).Reachable s₀ s) (suited : Suited paint start r₀ s.issued) :
    Matches paint start r₀ s := by
  refine h.invariant (I := fun s => Suited paint start r₀ s.issued → Matches paint start r₀ s)
    (fun _ => h₀) (fun s act _ ih enabled suited => ?_) suited
  have earlier := suited.before (issued_grows s act)
  cases act with
  | call ticket c => exact (ih earlier).call enabled
  | go e => exact (ih earlier).go earlier enabled

/-- The threads come to rest by themselves, and sooner without stray wake-ups. -/
theorem trace_patience (h : Matches paint start r₀ s) (suited : Suited paint start r₀ s.issued)
    {es : List (Event HeadlessDisplay)} (valid : (system σ).Valid s (es.map .go)) :
    es.countP (·.isProgress) + ((system σ).run s (es.map .go)).machine.patience ≤
      s.machine.patience + es.countP (·.isStray) := by
  induction es generalizing s with
  | nil => simp
  | cons e es ih =>
    obtain ⟨enabled, rest⟩ := valid
    have later := ih (h.go suited enabled) (by rwa [next, (issued_answered _ _).1]) rest
    have machine : (s.next (.go e)).machine = (s.machine.next s.display e).1 := by
      rw [next, (issued_answered _ _).2]
      rfl
    obtain ⟨progress, stray⟩ :=
      Machine.step_patience h.few (Machine.next_move s.machine s.display e enabled.2)
    rw [machine] at later
    change es.countP _ + ((system σ).run ((system σ).next s (.go e)) _).machine.patience ≤ _ at later
    simp only [List.map_cons, System.run_cons, List.countP_cons]
    cases moves : e.isProgress with
    | true =>
      have fewer := progress moves
      simp only [e.not_stray_of_progress moves, if_true, Bool.false_eq_true, if_false]
      omega
    | false =>
      have strays : e.isStray = true := by simpa [moves] using enabled.1
      have more := stray strays
      simp only [strays, if_true, Bool.false_eq_true, if_false]
      omega

/-- A session with a render thread refines one without. A single caller who makes one call after the other
gets from each the answer that it would get if the frame were drawn on the spot, and sees the same of the
session and the display when it returns, however its steps and those of the thread come in between. Every
call does return, for some thread can go on, and only finitely often but for stray wake-ups. -/
theorem answers_as_inline {info : DisplayInfo} {shape : BufferShape} {d₀ d : HeadlessDisplay}
    {m : Machine σ} (made : Machine.create info shape start d₀ = (.ok m, d)) {s : Solo σ}
    (h : (system σ).Reachable { machine := m, display := d } s)
    (suited : Suited paint start { id := info.id, slot := Slot.new shape, display := d } s.issued) :
    s.log = Inline.answers paint { id := info.id, slot := Slot.new shape, display := d } s.completed ∧
    (s.task = .idle → ∀ c, ∃ ticket, s.Enabled (.call ticket c)) ∧
    (s.task ≠ .idle → ∃ e : Event HeadlessDisplay, e.isProgress = true ∧ s.Enabled (.go e)) ∧
    (∀ es : List (Event HeadlessDisplay), (system σ).Valid s (es.map .go) →
      es.countP (·.isProgress) ≤ 16 + es.countP (·.isStray)) := by
  obtain rfl := Machine.fresh_of_create made
  have matching := reachable_matches (Matches.initial info.id shape d info rfl) h suited
  refine ⟨matching.log, matching.callable, matching.goes_on, fun es valid => ?_⟩
  have left := Machine.patience_le matching.few
  have spent := trace_patience matching suited valid
  omega

/-- The first frame cannot be composed, the second is shown and makes the display visible, and a stray
wake-up comes in between; then the session is shut down. -/
theorem answers_as_inline_until_shutdown :
    let panel : DisplayInfo := ⟨1, "panel", 4, 2, 0⟩
    let shape : BufferShape := ⟨4, 2, 1, .rgba8888, .none, 4⟩
    let buffer : Checkout := ⟨shape, 1, 1, []⟩
    let start : Rehearsal := { composeCues := [{ failure := ["no memory"] }] }
    let paint : Paint := fun past _ => match past with
      | [] => .error "no memory"
      | _ :: _ => .ok ()
    let d : HeadlessDisplay := { owner := some 1, acquireCalls := 1 }
    let frame : List Act := [.go .work, .go .work, .go .work, .go .work, .go .work, .go (.resume 0)]
    let acts : List Act :=
      [.call 0 (.setState .visibleOnNextFrame), .call 0 .acquire, .call 0 (.release buffer)] ++ frame ++
        [.go .work, .call 1 .acquire, .go .strayWakeRender, .call 1 (.release buffer),
          .go (.strayWakeCaller 1), .go (.resume 1), .go .work, .go .work, .go .work, .go .work,
          .go (.resume 1), .call 2 .shutdown, .go .work, .go .work, .go .join, .go .relinquish]
    let s := (system Rehearsal).run
      { machine := Machine.fresh panel 1 shape start, display := d } acts
    (system Rehearsal).Valid { machine := Machine.fresh panel 1 shape start, display := d } acts ∧
      s.task = .idle ∧ s.issued.length = 6 ∧
      s.log = Inline.answers paint { id := 1, slot := Slot.new shape, display := d } s.issued ∧
      s.machine.shared.tally = { composeFailures := 1, presented := 1 } ∧
      s.machine.shared.thread = .stopped ∧ s.display.presented = 1 := by
  intro panel shape buffer start paint d frame acts s
  have made : Machine.create panel shape start {} = (.ok (Machine.fresh panel 1 shape start), d) := by
    rfl
  have still : ∀ ps, Renderer.composeAll ({} : Rehearsal) ps = {} := by
    intro ps
    induction ps with
    | nil => rfl
    | cons p ps ih => exact ih
  have follows : Renderer.Follows paint [] start := by
    intro ps p
    cases ps with
    | nil => rfl
    | cons q qs =>
      have silent : Renderer.composeAll start (q :: qs) = {} := still qs
      rw [silent]
      rfl
  have valid : (system Rehearsal).Valid
      { machine := Machine.fresh panel 1 shape start, display := d } acts := by decide
  have free : s.task = .idle := by decide
  have all := answers_as_inline made ⟨acts, valid, show _ = s from rfl⟩
    (fun done _ => ⟨rfl, follows⟩)
  have completed : s.completed = s.issued := if_pos free
  refine ⟨valid, free, by decide, ?_, by decide, by decide, by decide⟩
  rw [← completed]
  exact all.1

end Solo

end DisplaySurface
