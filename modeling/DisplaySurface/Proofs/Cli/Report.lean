import DisplaySurface.Proofs.Cli.Course

/-!
What a run of the program reports. The thread that is due makes its step until none is due any more, and then
the session is where every order of steps leads.
-/

namespace DisplaySurface

namespace Machine

variable {σ δ : Type} {m : Machine σ}

theorem progress_of_due? {held : Machine σ → Bool} {e : Event δ} (due : m.due? held = some e) :
    e.isProgress = true := by
  unfold due? at due
  split at due
  · cases due
    rfl
  · split at due
    · cases due
      rfl
    · split at due
      · split at due <;> cases due
        rfl
      · cases due
        rfl
      · cases due
      · cases due

theorem due?_ne_none {e : Event δ} (progress : e.isProgress = true) (enabled : m.Enabled e) :
    m.due? (δ := δ) (fun _ => false) ≠ none := by
  intro nobody
  unfold due? at nobody
  split at nobody
  · cases nobody
  · rename_i idle
    split at nobody
    · cases nobody
    · rename_i asleep
      rw [List.find?_eq_none] at asleep
      cases e with
      | work =>
        have works : m.phase.canWork = true := enabled
        simp [works] at idle
      | resume ticket =>
        have mem := mem_waiters_of_hasWaiter enabled
        exact asleep _ mem rfl
      | join =>
        obtain ⟨joining, left⟩ := enabled
        simp [joining, left] at nobody
      | relinquish =>
        have ready : m.closing = .relinquishing := enabled
        simp [ready] at nobody
      | _ => cases progress

variable [Renderer σ] [Display δ] {d : δ} {I : Machine σ → δ → Prop}

/-- A session where no more than one caller waits comes to rest, and keeps what each of its steps keeps. -/
theorem goOn_rests (few : ∀ m d, I m d → m.waiters.length ≤ 1)
    (keeps : ∀ m d e c, I m d → e.isProgress = true → Move m d e c → I c.1 c.2) (fuel : Nat)
    (h : I m d) (enough : m.patience ≤ fuel) :
    let c := goOn (fun _ => false) fuel (m, d)
    I c.1 c.2 ∧ c.1.due? (δ := δ) (fun _ => false) = none := by
  induction fuel generalizing m d with
  | zero =>
    refine ⟨h, ?_⟩
    cases due : m.due? (δ := δ) (fun _ => false) with
    | none => exact due
    | some e =>
      have fewer := (step_patience (few m d h) (next_move m d e (enabled_of_due? due))).1
        (progress_of_due? due)
      omega
  | succ fuel ih =>
    unfold goOn
    cases due : m.due? (δ := δ) (fun _ => false) with
    | none => exact ⟨h, due⟩
    | some e =>
      have move := next_move m d e (enabled_of_due? due)
      have progress := progress_of_due? due
      have fewer := (step_patience (few m d h) move).1 progress
      exact ih (keeps m d e _ h progress move) (Nat.le_of_lt_succ (Nat.lt_of_lt_of_le fewer enough))

theorem settle_rests (few : ∀ m d, I m d → m.waiters.length ≤ 1)
    (keeps : ∀ m d e c, I m d → e.isProgress = true → Move m d e c → I c.1 c.2) (h : I m d) :
    let c := settle (fun _ => false) (m, d)
    I c.1 c.2 ∧ ∀ e : Event δ, e.isProgress = true → ¬ c.1.Enabled e := by
  have enough : m.patience ≤ m.enough :=
    Nat.le_trans (patience_le (few m d h)) (Nat.le_add_right 16 _)
  obtain ⟨kept, nobody⟩ := goOn_rests few keeps m.enough h enough
  exact ⟨kept, fun e progress enabled => due?_ne_none progress enabled nobody⟩

end Machine

namespace Cli

open Machine

variable {shape : BufferShape} {m : Machine Painter} {d : HeadlessDisplay} {count k : Nat}

theorem Resting.settled (h : Resting shape k false m d) :
    Resting shape k false (Cli.settle (m, d)).1 (Cli.settle (m, d)).2 := by
  refine (settle_rests (I := Resting shape k false) (fun _ _ rests => rests.few) ?_ h).1
  intro m d e c rests progress move
  exact rests.go (by simp [progress]) move

theorem Waiting.settled (h : Waiting shape k m d) :
    Resting shape (k + 1) false (Cli.settle (m, d)).1 (Cli.settle (m, d)).2 := by
  have few (m : Machine Painter) (d : HeadlessDisplay) :
      Waiting shape k m d ∨ Resting shape (k + 1) false m d → m.waiters.length ≤ 1 := by
    rintro (waits | rests)
    · exact waits.few
    · exact rests.few
  have keeps (m : Machine Painter) (d : HeadlessDisplay) (e : Event HeadlessDisplay)
      (c : Machine Painter × HeadlessDisplay) (h : Waiting shape k m d ∨ Resting shape (k + 1) false m d)
      (progress : e.isProgress = true) (move : Move m d e c) :
      Waiting shape k c.1 c.2 ∨ Resting shape (k + 1) false c.1 c.2 := by
    have own : (e.isProgress || e.isStray) = true := by simp [progress]
    rcases h with waits | rests
    · exact waits.go own move
    · exact .inr (rests.go own move)
  obtain ⟨waits | rests, nothing⟩ := settle_rests few keeps (.inl h)
  · obtain ⟨e, progress, enabled⟩ := waits.goes_on
    exact absurd enabled (nothing e progress)
  · exact rests

theorem Departing.settled {frames : Nat} (h : Departing frames m d) :
    Departing frames (Cli.settle (m, d)).1 (Cli.settle (m, d)).2 := by
  refine (settle_rests (I := Departing frames) (fun _ _ departs => departs.few) ?_ h).1
  intro m d e c departs progress move
  exact departs.go (by simp [progress]) move

theorem Resting.showFrame (h : Resting shape k false m d) :
    ∃ m' d', Cli.showFrame k (m, d) = (.ok (outcomeFor shape), (m', d')) ∧
      Resting shape (k + 1) false m' d' := by
  obtain ⟨m₁, acquired, rests⟩ := h.acquire
  generalize drawn : Checkout.add { shape, handle := 1, fingerprint := 1 } (sweepLayers m₁.info k) = b
  have mine : b.fingerprint = 1 := by
    rw [← drawn]
    rfl
  have ends : Resting shape (k + 1) false (Cli.settle (m₁.release k b, d)).1
      (Cli.settle (m₁.release k b, d)).2 := by
    rcases rests.release mine with waits | rests
    · exact waits.settled
    · exact rests.settled
  refine ⟨_, _, ?_, ends⟩
  simp [Cli.showFrame, acquired, drawn, ends.scene.told k (Nat.lt_succ_self k)]

theorem Resting.showFrames (left : Nat) {log : List (Level × String)}
    (logged : log.reverse = warnings shape k) (h : Resting shape k false m d) :
    ∃ log' m' d', Cli.showFrames left k log (m, d) = (.ok (), log', (m', d')) ∧
      log'.reverse = warnings shape (k + left) ∧ Resting shape (k + left) false m' d' := by
  induction left generalizing k log m d with
  | zero => exact ⟨log, m, d, rfl, logged, h⟩
  | succ left ih =>
    obtain ⟨m₁, d₁, ends, rests⟩ := h.showFrame
    have logs := warnings_succ shape k
    rw [show k + (left + 1) = k + 1 + left by omega]
    cases outcome : outcomeFor shape with
    | ok =>
      rw [outcome] at ends logs
      simp only [Cli.showFrames, ends]
      exact ih (logged.trans logs.symm) rests
    | error e =>
      rw [outcome] at ends logs
      simp only [Cli.showFrames, ends]
      apply ih ?_ rests
      rw [List.reverse_cons, logged, logs]

theorem Resting.closingLines (h : Resting shape k false m d) :
    Cli.closingLines (m, d) = ending shape (shown shape k) := by
  obtain ⟨tally, imports, requested, pictured, _⟩ := h.sees
  have dead : (Cli.settle (m.shutdown, d)).1.shared.requested = .dead := h.shutdown.1.settled.dead
  have lines : Cli.closingLines (m, d) = [tallyLine m.shared.tally d.imports m.shared.requested,
      pictureLine m.renderer.lastFrame.width m.renderer.lastFrame.height m.renderer.lastFrame.fingerprint,
      takenLine, exitLine (Cli.settle (m.shutdown, d)).1.shared.requested] := rfl
  rw [lines, tally, imports, requested, pictured.line, dead]
  rfl

def startLine (c : Config) : Level × String :=
  (.info, "Starting display session with " ++ c.display.shown)

def fullLog (c : Config) (n : Nat) : List (Level × String) :=
  [startLine c,
    tallyLine { presented := n } (min n 1) (if n = 0 then .visibleOnNextFrame else .visible),
    if n = 0 then pictureLine 0 0 0 else pictureLine c.bufferShape.width c.bufferShape.height 1,
    takenLine, exitLine .dead]

def emptyLog (c : Config) (n : Nat) : List (Level × String) :=
  [startLine c] ++ (List.range n).map (fun k => notShown k .shutDown) ++
    [tallyLine {} 0 .visibleOnNextFrame, pictureLine 0 0 0, takenLine, exitLine .dead]

theorem script_eq (c : Config) (n : Nat) : startLine c :: script c.bufferShape n =
    if c.bufferShape.isDrawable then fullLog c n else emptyLog c n := by
  cases drawable : c.bufferShape.isDrawable <;>
    simp [script, warnings, ending, shown, fullLog, emptyLog, drawable]

example : fullLog {} 2 = [startLine {},
    (.info, "Presented 2 frames (1 imports), display Visible, SessionStats \x7b " ++
      "frames_presented: 2, frames_discarded: 0, compose_failures: 0, present_failures: 0 \x7d"),
    (.info, "Last frame: 640x480, fingerprint 1"),
    (.info, "Another owner took the display, shutting down"),
    (.info, "Display session exited: Dead")] := by rfl

theorem sweep_eq {spawn : Spawn} {c : Config} {m₀ : Machine Painter}
    (made : Machine.create c.displayInfo c.bufferShape ({ clearColor := ⟨0, 0, 0, 255⟩ } : Painter) {} =
      (.ok m₀, d))
    (visible : m₀.setState .visibleOnNextFrame spawn = (.returned (.ok ()), m)) (n : Nat) :
    sweep spawn n c = { exitCode := 0, log := startLine c :: script c.bufferShape n } := by
  have rests := (Resting.initial made visible).settled
  have nothing : [].reverse = warnings c.bufferShape 0 := (warnings_zero _).symm
  obtain ⟨log, m', d', shows, logged, rests'⟩ := rests.showFrames n nothing
  simp only [Nat.zero_add] at logged rests'
  simp only [sweep, made, visible, shows, logged, rests'.closingLines]
  rfl

/-- A session that was made and is visible shows every frame or none, on every system that granted its
thread and whatever the order of the steps. If its buffer can be drawn the display gets one frame after the other, and otherwise each is reported not to be
shown. No buffer is refused, the program comes to its end after finitely many steps but for stray wake-ups, and
the session is dead then. -/
theorem all_frames_shown_or_none {spawn : RenderSection → Spawn} {args : List String}
    {file : Option Config.FileContent} {n : Nat} {m₀ m : Machine Painter} {d : HeadlessDisplay}
    (counted : args = [] ∧ n = defaultFrameCount ∨
      ∃ arg rest, args = arg :: rest ∧ Text.readDigits 10 UInt64.size arg.toList = .ok n)
    (made : Machine.create (Config.orDefault file).displayInfo (Config.orDefault file).bufferShape
      ({ clearColor := ⟨0, 0, 0, 255⟩ } : Painter) {} = (.ok m₀, d))
    (visible : m₀.setState .visibleOnNextFrame (spawn (Config.orDefault file).render) =
      (.returned (.ok ()), m)) :
    let c := Config.orDefault file
    let shape := c.bufferShape
    let drawable := (shape.format = .rgba8888 ∨ shape.format = .rgbx8888) ∧ shape.size ≤ 2 ^ 63 - 1
    let log := if drawable then fullLog c n else emptyLog c n
    let start : Program := { machine := m, display := d, log := [startLine c] }
    runOn spawn args file = { exitCode := 0, log } ∧
    (∃ p, (Program.system n).Reachable start p ∧ p.stage = .ended) ∧
    ∀ p, (Program.system n).Reachable start p →
      (∀ e, p.stage ≠ .refused e) ∧ p.log <+: log ∧
      (p.stage = .ended → p.log = log ∧ p.machine.shared.requested = .dead ∧
        p.display.presented = if drawable then n else 0) ∧
      (p.stage ≠ .ended → ∃ s : Step, s.isProgress = true ∧ p.Enabled s) ∧
      ∀ steps, (Program.system n).Valid p steps →
        steps.countP (·.isProgress) ≤ 34 * n + 118 + steps.countP (·.isStray) := by
  intro c shape drawable log start
  have isDrawable : shape.isDrawable = true ↔ drawable := shape.isDrawable_iff
  have script_eq : startLine c :: script shape n = log := by
    exact (script_eq c n).trans (if_congr isDrawable rfl rfl)
  have rests := Resting.initial made visible
  refine ⟨?_, (OnCourse.reachable rests (.refl _ start)).ends, fun p reached => ?_⟩
  · have swept : runOn spawn args file = sweep (spawn c.render) n c := by
      rcases counted with ⟨rfl, rfl⟩ | ⟨arg, rest, rfl, counted⟩
      · rfl
      · simp only [runOn, counted]
        rfl
    rw [swept, sweep_eq made visible, script_eq]
  · have course := OnCourse.reachable rests reached
    refine ⟨course.unrefused, script_eq ▸ course.logged, ?_, course.goes_on, ?_⟩
    · intro ended
      obtain ⟨logged, dead, presented⟩ := course.outcome ended
      refine ⟨logged.trans script_eq, dead, ?_⟩
      exact presented.trans (if_congr isDrawable rfl rfl)
    · intro steps valid
      have left := course.ahead_le
      have spent := course.trace_ahead valid
      omega

/-- Two frames on the display that a program has without a configuration. -/
theorem all_frames_shown_by_default :
    let c := Config.orDefault none
    let m₀ := Machine.fresh c.displayInfo 0 c.bufferShape ({ clearColor := ⟨0, 0, 0, 255⟩ } : Painter)
    let m := opened c.displayInfo c.bufferShape ⟨0, 0, 0, 255⟩
    let d : HeadlessDisplay := { owner := some 0, acquireCalls := 1 }
    Text.readDigits 10 UInt64.size "2".toList = .ok 2 ∧
      Machine.create c.displayInfo c.bufferShape ({ clearColor := ⟨0, 0, 0, 255⟩ } : Painter) {} =
        (.ok m₀, d) ∧
      m₀.setState .visibleOnNextFrame c.render.spawn = (.returned (.ok ()), m) ∧
      run ["2"] none = { exitCode := 0, log := fullLog c 2 } ∧
      ∀ p, (Program.system 2).Reachable { machine := m, display := d, log := [startLine c] } p →
        p.stage = .ended → p.display.presented = 2 := by
  intro c m₀ m d
  have counted : Text.readDigits 10 UInt64.size "2".toList = .ok 2 := by decide +kernel
  have made : Machine.create c.displayInfo c.bufferShape ({ clearColor := ⟨0, 0, 0, 255⟩ } : Painter) {} =
      (.ok m₀, d) := by
    have valid : c.bufferShape.check = .ok () := by decide +kernel
    simp only [Machine.create, valid]
    rfl
  have visible : m₀.setState .visibleOnNextFrame c.render.spawn = (.returned (.ok ()), m) := by
    have granted : c.render.spawn = .started := by decide +kernel
    rw [granted]
    rfl
  have drawable : (c.bufferShape.format = .rgba8888 ∨ c.bufferShape.format = .rgbx8888) ∧
      c.bufferShape.size ≤ 2 ^ 63 - 1 := by decide +kernel
  obtain ⟨ran, _, course⟩ := all_frames_shown_or_none (.inr ⟨"2", [], rfl, counted⟩) made visible
  rw [if_pos drawable] at ran
  refine ⟨counted, made, visible, ran, fun p reached ended => ?_⟩
  exact ((course p reached).2.2.1 ended).2.2.trans (if_pos drawable)

end Cli

end DisplaySurface
