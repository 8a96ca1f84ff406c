import DisplaySurface.Proofs.Cli.Rounds

/-!
The course of the program. Its main thread makes one step after the other, and between any two of them the
render thread goes on by itself, and threads wake up for no reason. Whatever the order, the main thread sees
the same and writes the same log.
-/

namespace DisplaySurface.Cli

open Machine

def tallyLine (t : Tally) (imports : Nat) (requested : Visibility) : Level × String :=
  (.info, s!"Presented {t.presented} frames ({imports} imports), display " ++ requested.name ++ ", "
    ++ t.shown)

def pictureLine (width height : UInt32) (fingerprint : Nat) : Level × String :=
  (.info, s!"Last frame: {width}x{height}, fingerprint {fingerprint}")

def takenLine : Level × String :=
  (.info, "Another owner took the display, shutting down")

def exitLine (requested : Visibility) : Level × String :=
  (.info, "Display session exited: " ++ requested.name)

inductive Stage where
  /-- It acquires the buffer for a frame, or leaves the loop. -/
  | frame (k : Nat)
  /-- It hands in the buffer with its layers. -/
  | drawn (k : Nat) (b : Checkout)
  /-- It waits for a frame. -/
  | releasing (k : Nat)
  /-- It has failed to acquire a buffer. -/
  | refused (e : SessionError)
  /-- It has read the counters, and then those of the display. -/
  | counted (t : Tally)
  | compared (t : Tally) (imports : Nat)
  /-- It has reported them, and then the picture. -/
  | summed
  | described
  /-- It waits for the render thread to leave. -/
  | leaving
  | left
  | ended

namespace Stage

def isReady : Stage → Bool
  | releasing _ | refused _ | leaving | ended => false
  | _ => true

def ahead (count : Nat) : Stage → Nat
  | frame k => 2 * (count - k) + 6
  | drawn k _ => 2 * (count - k) + 5
  | releasing k => 2 * (count - k) + 4
  | counted _ => 5
  | compared _ _ => 4
  | summed => 3
  | described => 2
  | leaving | left => 1
  | refused _ | ended => 0

end Stage

/-- The program once its session is visible, with its log so far. -/
structure Program where
  machine : Machine Painter
  display : HeadlessDisplay
  stage : Stage := .frame 0
  log : List (Level × String)

/-- The main thread makes a step, or something goes on without it. -/
inductive Step where
  | main
  | go (e : Event HeadlessDisplay)

namespace Step

def isProgress : Step → Bool
  | main => true
  | go e => e.isProgress

def isStray : Step → Bool
  | main => false
  | go e => e.isStray

end Step

namespace Program

def logs (p : Program) (line : Level × String) (stage : Stage) : Program :=
  { p with stage, log := p.log ++ [line] }

def returned (p : Program) : Program :=
  match p.stage with
  | .releasing k =>
    match p.machine.returned.lookup k with
    | some (.ok ()) => { p with stage := .frame (k + 1) }
    | some (.error e) => p.logs (notShown k e) (.frame (k + 1))
    | none => p
  | .leaving => if p.machine.closing = .closed then { p with stage := .left } else p
  | _ => p

def main (count : Nat) (p : Program) : Program :=
  match p.stage with
  | .frame k =>
    if k < count then
      match p.machine.acquire with
      | (.error e, machine) => { p with machine, stage := .refused e }
      | (.ok b, machine) =>
        { p with machine, stage := .drawn k (b.add (sweepLayers p.machine.info k)) }
    else { p with stage := .counted p.machine.shared.tally }
  | .drawn k b => returned { p with machine := p.machine.release k b, stage := .releasing k }
  | .counted t => { p with stage := .compared t p.display.imports }
  | .compared t imports => p.logs (tallyLine t imports p.machine.shared.requested) .summed
  | .summed =>
    let last := p.machine.renderer.lastFrame
    p.logs (pictureLine last.width last.height last.fingerprint) .described
  | .described =>
    let dead := p.machine.shared.isDead
    { p with machine := p.machine.shutdown }.logs takenLine (if dead then .left else .leaving)
  | .left => p.logs (exitLine p.machine.shared.requested) .ended
  | .releasing _ | .refused _ | .leaving | .ended => p

def Enabled (p : Program) : Step → Prop
  | .main => p.stage.isReady = true
  | .go e => (e.isProgress || e.isStray) = true ∧ p.machine.Enabled e

instance (p : Program) (s : Step) : Decidable (p.Enabled s) := by
  cases s <;> unfold Enabled <;> infer_instance

def next (count : Nat) (p : Program) : Step → Program
  | .main => p.main count
  | .go e =>
    returned { p with
      machine := (p.machine.next p.display e).1
      display := (p.machine.next p.display e).2 }

def system (count : Nat) : System Program Step where
  Enabled := Enabled
  next := next count

instance (count : Nat) (p : Program) (s : Step) : Decidable ((system count).Enabled p s) :=
  inferInstanceAs (Decidable (p.Enabled s))

end Program

theorem Step.stray_of_enabled {p : Program} {s : Step} (enabled : p.Enabled s)
    (still : s.isProgress = false) : s.isStray = true := by
  cases s with
  | main => cases still
  | go e =>
    have own := enabled.1
    rw [show e.isProgress = false from still] at own
    exact own

def warnings (shape : BufferShape) (frames : Nat) : List (Level × String) :=
  if shape.isDrawable then [] else (List.range frames).map fun k => notShown k .shutDown

def ending (shape : BufferShape) (frames : Nat) : List (Level × String) :=
  [tallyLine { presented := frames } (min frames 1) (if frames = 0 then .visibleOnNextFrame else .visible),
    if frames = 0 then pictureLine 0 0 0 else pictureLine shape.width shape.height 1,
    takenLine, exitLine .dead]

/-- What is logged of the session from the first frame on. -/
def script (shape : BufferShape) (count : Nat) : List (Level × String) :=
  warnings shape count ++ ending shape (shown shape count)

variable {shape : BufferShape} {m : Machine Painter} {d : HeadlessDisplay} {count k : Nat}
  {first : Level × String} {p : Program}

theorem warnings_zero (shape : BufferShape) : warnings shape 0 = [] := by
  simp [warnings]

theorem warnings_succ (shape : BufferShape) (k : Nat) : warnings shape (k + 1) =
    match outcomeFor shape with
    | .ok () => warnings shape k
    | .error e => warnings shape k ++ [notShown k e] := by
  cases drawable : shape.isDrawable <;> simp [warnings, outcomeFor, drawable, List.range_succ]

theorem warnings_mono (shape : BufferShape) (before : k ≤ count) :
    warnings shape k <+: warnings shape count := by
  cases drawable : shape.isDrawable with
  | true => simp [warnings, drawable]
  | false =>
    obtain ⟨rest, rfl⟩ := Nat.exists_eq_add_of_le before
    simp only [warnings, drawable, Bool.false_eq_true, if_false, List.range_add, List.map_append]
    exact List.prefix_append _ _

theorem Pictured.line {frames : Nat} {s : Snapshot} (h : Pictured shape frames s) :
    pictureLine s.width s.height s.fingerprint =
      if frames = 0 then pictureLine 0 0 0 else pictureLine shape.width shape.height 1 := by
  unfold Pictured at h
  split at h
  · rw [h, if_pos ‹_›]
  · obtain ⟨fingerprint, width, height⟩ := h
    rw [fingerprint, width, height, if_neg ‹_›]

theorem Waiting.pending (h : Waiting shape k m d) : m.returned.lookup k = none := by
  rw [List.lookup_eq_none_iff]
  intro r mem
  have earlier := h.scene.untold r mem
  simp only [bne_iff_ne]
  omega

/-- What the main thread has seen at each stage, and what it has logged. -/
inductive OnCourse (shape : BufferShape) (count : Nat) (first : Level × String) : Program → Prop where
  | frame (k : Nat) (m : Machine Painter) (d : HeadlessDisplay) :
      k ≤ count → Resting shape k false m d →
      OnCourse shape count first ⟨m, d, .frame k, first :: warnings shape k⟩
  | drawn (k : Nat) (b : Checkout) (m : Machine Painter) (d : HeadlessDisplay) :
      k < count → b.fingerprint = 1 → Resting shape k true m d →
      OnCourse shape count first ⟨m, d, .drawn k b, first :: warnings shape k⟩
  | releasing (k : Nat) (m : Machine Painter) (d : HeadlessDisplay) :
      k < count → Waiting shape k m d →
      OnCourse shape count first ⟨m, d, .releasing k, first :: warnings shape k⟩
  | counted (m : Machine Painter) (d : HeadlessDisplay) : Resting shape count false m d →
      OnCourse shape count first
        ⟨m, d, .counted { presented := shown shape count }, first :: warnings shape count⟩
  | compared (m : Machine Painter) (d : HeadlessDisplay) : Resting shape count false m d →
      OnCourse shape count first
        ⟨m, d, .compared { presented := shown shape count } (min (shown shape count) 1),
          first :: warnings shape count⟩
  | summed (m : Machine Painter) (d : HeadlessDisplay) : Resting shape count false m d →
      OnCourse shape count first ⟨m, d, .summed,
        first :: warnings shape count ++ (ending shape (shown shape count)).take 1⟩
  | described (m : Machine Painter) (d : HeadlessDisplay) : Resting shape count false m d →
      OnCourse shape count first ⟨m, d, .described,
        first :: warnings shape count ++ (ending shape (shown shape count)).take 2⟩
  | leaving (m : Machine Painter) (d : HeadlessDisplay) :
      Departing (shown shape count) m d → m.closing ≠ .closed →
      OnCourse shape count first ⟨m, d, .leaving,
        first :: warnings shape count ++ (ending shape (shown shape count)).take 3⟩
  | left (m : Machine Painter) (d : HeadlessDisplay) :
      Departing (shown shape count) m d → m.closing = .closed →
      OnCourse shape count first ⟨m, d, .left,
        first :: warnings shape count ++ (ending shape (shown shape count)).take 3⟩
  | ended (m : Machine Painter) (d : HeadlessDisplay) :
      Departing (shown shape count) m d → m.closing = .closed →
      OnCourse shape count first ⟨m, d, .ended, first :: script shape count⟩

theorem Departing.finished {frames : Nat} {e : Event HeadlessDisplay} (h : Departing frames m d)
    (closed : m.closing = .closed) (own : (e.isProgress || e.isStray) = true) : ¬ m.Enabled e := by
  have left := h.left (by simp [closed])
  intro enabled
  cases e with
  | work =>
    have works : m.phase.canWork = true := enabled
    cases here : m.phase <;> simp_all [Phase.isOver, Phase.canWork]
  | resume ticket =>
    have woken : m.hasWaiter ticket false = true := enabled
    simp [hasWaiter, h.alone] at woken
  | join =>
    have joining := enabled.1
    simp [closed] at joining
  | relinquish =>
    have ready : m.closing = .relinquishing := enabled
    simp [closed] at ready
  | strayWakeRender => exact absurd enabled h.awake
  | strayWakeCaller ticket =>
    have parked : m.hasWaiter ticket true = true := enabled
    simp [hasWaiter, h.alone] at parked
  | _ => cases own

namespace OnCourse

/-- A frame that was released is on its way, or has ended as all frames do. -/
theorem returned (before : k < count)
    (h : Waiting shape k m d ∨ Resting shape (k + 1) false m d) :
    OnCourse shape count first
      (Program.returned ⟨m, d, .releasing k, first :: warnings shape k⟩) := by
  rcases h with waits | rests
  · simp only [Program.returned, waits.pending]
    exact .releasing k m d before waits
  · have logged : OnCourse shape count first _ := .frame (k + 1) m d before rests
    rw [warnings_succ] at logged
    simp only [Program.returned, rests.scene.told k (Nat.lt_succ_self k)]
    cases outcome : outcomeFor shape with
    | ok => simpa [outcome] using logged
    | error e => simpa [outcome, Program.logs] using logged

theorem go {e : Event HeadlessDisplay} (h : OnCourse shape count first p) (enabled : p.Enabled (.go e)) :
    OnCourse shape count first (p.next count (.go e)) := by
  obtain ⟨own, enabled⟩ := enabled
  have move := next_move p.machine p.display e enabled
  cases h with
  | frame k m d before rests => exact .frame k _ _ before (rests.go own move)
  | drawn k b m d before mine rests => exact .drawn k b _ _ before mine (rests.go own move)
  | releasing k m d before waits => exact returned before (waits.go own move)
  | counted m d rests => exact .counted _ _ (rests.go own move)
  | compared m d rests => exact .compared _ _ (rests.go own move)
  | summed m d rests => exact .summed _ _ (rests.go own move)
  | described m d rests => exact .described _ _ (rests.go own move)
  | leaving m d departs =>
    have departs' := departs.go own move
    simp only [Program.next, Program.returned]
    split
    · exact .left _ _ departs' ‹_›
    · exact .leaving _ _ departs' ‹_›
  | left m d departs closed | ended m d departs closed =>
    exact absurd enabled (departs.finished closed own)

theorem main (h : OnCourse shape count first p) (ready : p.stage.isReady = true) :
    OnCourse shape count first (p.main count) := by
  cases h with
  | frame k m d before rests =>
    by_cases more : k < count
    · obtain ⟨m', acquired, rests'⟩ := rests.acquire
      simp only [Program.main, if_pos more, acquired]
      exact .drawn k _ m' d more rfl rests'
    · obtain rfl : k = count := by omega
      simp only [Program.main, if_neg more, rests.sees.1]
      exact .counted m d rests
  | drawn k b m d before mine rests => exact returned before (rests.release mine)
  | counted m d rests =>
    simp only [Program.main, rests.sees.2.1]
    exact .compared m d rests
  | compared m d rests =>
    simp only [Program.main, rests.sees.2.2.1, Program.logs]
    exact .summed m d rests
  | summed m d rests =>
    simp only [Program.main, rests.sees.2.2.2.1.line, Program.logs, List.append_assoc]
    exact .described m d rests
  | described m d rests =>
    obtain ⟨departs, joining⟩ := rests.shutdown
    simp only [Program.main, rests.scene.alive, Program.logs, List.append_assoc, Bool.false_eq_true,
      if_false]
    exact .leaving _ d departs (by simp [joining])
  | left m d departs closed =>
    simp only [Program.main, departs.dead, Program.logs, List.append_assoc]
    exact .ended m d departs closed
  | releasing | leaving | ended => cases ready

theorem next {s : Step} (h : OnCourse shape count first p) (enabled : p.Enabled s) :
    OnCourse shape count first (p.next count s) := by
  cases s with
  | main => exact h.main enabled
  | go e => exact h.go enabled

theorem reachable {c : Program} (rests : Resting shape 0 false m d)
    (h : (Program.system count).Reachable { machine := m, display := d, log := [first] } c) :
    OnCourse shape count first c := by
  have begins : OnCourse shape count first _ := .frame 0 m d (Nat.zero_le count) rests
  rw [warnings_zero] at begins
  exact h.invariant begins fun _ _ _ course enabled => course.next enabled

theorem unrefused (h : OnCourse shape count first p) (e : SessionError) : p.stage ≠ .refused e := by
  cases h <;> simp

theorem outcome (h : OnCourse shape count first p) (ended : p.stage = .ended) :
    p.log = first :: script shape count ∧ p.machine.shared.requested = .dead ∧
      p.display.presented = shown shape count := by
  cases h with
  | ended m d departs => exact ⟨rfl, departs.dead, departs.presented⟩
  | _ => cases ended

theorem few (h : OnCourse shape count first p) : p.machine.waiters.length ≤ 1 := by
  cases h with
  | frame _ _ _ _ rests | drawn _ _ _ _ _ _ rests | counted _ _ rests | compared _ _ rests
  | summed _ _ rests | described _ _ rests => exact rests.few
  | leaving _ _ departs | left _ _ departs | ended _ _ departs => exact departs.few
  | releasing _ _ _ _ waits => exact waits.few

theorem logged (h : OnCourse shape count first p) : p.log <+: first :: script shape count := by
  have partly (lines : Nat) : first :: warnings shape count ++
      (ending shape (shown shape count)).take lines <+: first :: script shape count :=
    (List.prefix_append_right_inj (first :: warnings shape count)).mpr (List.take_prefix lines _)
  have early {k : Nat} (before : k ≤ count) : first :: warnings shape k <+: first :: script shape count :=
    List.cons_prefix_cons.mpr ⟨rfl, (warnings_mono shape before).trans (List.prefix_append _ _)⟩
  cases h with
  | frame k m d before => exact early before
  | drawn k b m d before | releasing k m d before => exact early (Nat.le_of_lt before)
  | counted | compared => exact early (Nat.le_refl count)
  | summed | described | leaving | left => exact partly _
  | ended => exact List.prefix_refl _

theorem goes_on (h : OnCourse shape count first p) (unfinished : p.stage ≠ .ended) :
    ∃ s : Step, s.isProgress = true ∧ p.Enabled s := by
  cases h with
  | ended => exact absurd rfl unfinished
  | releasing k m d before waits =>
    obtain ⟨e, progress, enabled⟩ := waits.goes_on
    exact ⟨.go e, progress, by simp [progress], enabled⟩
  | leaving m d departs unclosed =>
    obtain ⟨e, progress, enabled⟩ := departs.goes_on unclosed
    exact ⟨.go e, progress, by simp [progress], enabled⟩
  | _ => exact ⟨.main, rfl, rfl⟩

/-- A frame that returns leaves as much to do as it left while it was on its way. -/
theorem returned_ahead (count : Nat) (p : Program) (before : ∀ k, p.stage = .releasing k → k < count) :
    p.returned.machine = p.machine ∧ p.returned.stage.ahead count ≤ p.stage.ahead count := by
  cases stage : p.stage with
  | releasing k =>
    have before := before k stage
    have later : (Stage.frame (k + 1)).ahead count ≤ (Stage.releasing k).ahead count := by
      simp only [Stage.ahead]
      omega
    simp only [Program.returned, stage]
    split
    · exact ⟨rfl, later⟩
    · exact ⟨rfl, later⟩
    · simp [stage]
  | leaving =>
    simp only [Program.returned, stage]
    split
    · exact ⟨rfl, Nat.le_refl 1⟩
    · simp [stage]
  | _ => simp [Program.returned, stage]

theorem main_ahead (h : OnCourse shape count first p) (ready : p.stage.isReady = true) :
    (p.main count).stage.ahead count < p.stage.ahead count := by
  cases h with
  | frame k m d before rests =>
    by_cases more : k < count
    · simp only [Program.main, if_pos more]
      split <;> simp only [Stage.ahead] <;> omega
    · simp only [Program.main, if_neg more, Stage.ahead]
      omega
  | drawn k b m d before mine rests =>
    obtain ⟨_, nearer⟩ := returned_ahead count
      ⟨m.release k b, d, .releasing k, first :: warnings shape k⟩ (by simpa using before)
    simp only [Program.main, Stage.ahead] at nearer ⊢
    omega
  | described m d rests =>
    simp [Program.main, Program.logs, rests.scene.alive, Stage.ahead]
  | releasing | leaving | ended => cases ready
  | _ => simp [Program.main, Stage.ahead, Program.logs]

end OnCourse

/-- How many steps are left. Each step of the main thread can give the render thread something to do. -/
def Program.ahead (count : Nat) (p : Program) : Nat :=
  17 * p.stage.ahead count + p.machine.patience

namespace OnCourse

theorem step_ahead {s : Step} (h : OnCourse shape count first p) (enabled : p.Enabled s) :
    (s.isProgress = true → (p.next count s).ahead count < p.ahead count) ∧
      (s.isStray = true → (p.next count s).ahead count ≤ p.ahead count + 1) := by
  cases s with
  | main =>
    have nearer := h.main_ahead enabled
    have few := patience_le (h.main enabled).few
    refine ⟨fun _ => ?_, by simp [Step.isStray]⟩
    simp only [Program.ahead, Program.next]
    omega
  | go e =>
    obtain ⟨progress, stray⟩ := step_patience h.few (next_move p.machine p.display e enabled.2)
    have before (k : Nat) (stage : p.stage = .releasing k) : k < count := by
      cases h with
      | releasing k m d before =>
        cases stage
        exact before
      | _ => cases stage
    obtain ⟨machine, nearer⟩ := returned_ahead count
      { p with machine := (p.machine.next p.display e).1, display := (p.machine.next p.display e).2 } before
    change _ ≤ p.stage.ahead count at nearer
    simp only [Program.ahead, Program.next, machine]
    refine ⟨fun moves => ?_, fun strays => ?_⟩
    · have fewer := progress moves
      omega
    · have more := stray strays
      omega

theorem ahead_le (h : OnCourse shape count first p) : p.ahead count ≤ 34 * count + 118 := by
  have few := patience_le h.few
  have stages : p.stage.ahead count ≤ 2 * count + 6 := by
    cases p.stage <;> simp only [Stage.ahead] <;> omega
  unfold Program.ahead
  omega

/-- Some order of steps leads to the end. -/
theorem ends (h : OnCourse shape count first p) :
    ∃ p', (Program.system count).Reachable p p' ∧ p'.stage = .ended := by
  induction left : p.ahead count using Nat.strongRecOn generalizing p with
  | ind left ih =>
    by_cases ended : p.stage = .ended
    · exact ⟨p, .refl _ p, ended⟩
    · obtain ⟨s, progress, enabled⟩ := h.goes_on ended
      have fewer := (h.step_ahead enabled).1 progress
      obtain ⟨p', later, ended⟩ := ih _ (left ▸ fewer) (h.next enabled) rfl
      have here : (Program.system count).Reachable p (p.next count s) := (System.Reachable.refl _ p).tail enabled
      exact ⟨p', here.trans later, ended⟩

/-- The program comes to its end by itself, and sooner without stray wake-ups. -/
theorem trace_ahead (h : OnCourse shape count first p) {steps : List Step}
    (valid : (Program.system count).Valid p steps) :
    steps.countP (·.isProgress) + ((Program.system count).run p steps).ahead count ≤
      p.ahead count + steps.countP (·.isStray) := by
  induction steps generalizing p with
  | nil => simp
  | cons s steps ih =>
    obtain ⟨enabled, rest⟩ := valid
    have later := ih (h.next enabled) rest
    obtain ⟨progress, stray⟩ := h.step_ahead enabled
    change steps.countP _ + ((Program.system count).run (p.next count s) steps).ahead count ≤ _ at later
    simp only [System.run_cons, List.countP_cons]
    change _ + ((Program.system count).run (p.next count s) steps).ahead count ≤ _
    cases moves : s.isProgress with
    | true =>
      have fewer := progress moves
      simp only [if_true]
      omega
    | false =>
      have strays := Step.stray_of_enabled enabled moves
      have more := stray strays
      simp only [strays, if_true, Bool.false_eq_true, if_false]
      omega

end OnCourse

end DisplaySurface.Cli
