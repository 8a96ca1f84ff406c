import DisplaySurface.Proofs.Machine.Outcomes

/-!
The numbers of frames. The render thread numbers what it composes, the session counts what it publishes
and the display counts what it accepts, each for itself. Nothing but the places that a frame goes
through keeps them in step.
-/

namespace DisplaySurface

namespace Entry

def answer? : Entry → Option (Nat × Reply)
  | shown _ frame reply => some (frame.sequence, reply)
  | _ => none

def isComposed : Entry → Bool
  | composed _ reply => reply = .done
  | _ => false

end Entry

namespace Journal

def answers (j : Journal) : List (Nat × Reply) :=
  j.entries.filterMap Entry.answer?

def accepted (j : Journal) : List Nat :=
  (j.answers.filter (·.2 = .done)).map (·.1)

def refused (j : Journal) : List Nat :=
  (j.answers.filter (·.2 ≠ .done)).map (·.1)

def composes (j : Journal) : Nat :=
  j.entries.countP Entry.isComposed

theorem accepted_write_shown (j : Journal) (o : Option Nat) (frame : Frame) (reply : Reply) :
    (j.write (.shown o frame reply)).accepted =
      if reply = .done then frame.sequence :: j.accepted else j.accepted := by
  by_cases done : reply = .done
  · simp [accepted, answers, write, Entry.answer?, done]
  · simp [accepted, answers, write, Entry.answer?, done]

theorem answers_numbers (j : Journal) :
    j.answers.map (·.1) = (j.entries.filterMap Entry.shown?).map (·.sequence) := by
  simp only [answers, List.map_filterMap]
  congr 1
  funext e
  cases e <;> rfl

theorem mem_accepted_iff {j : Journal} (once : (j.answers.map (·.1)).Nodup) (n : Nat) :
    n ∈ j.accepted ↔ n ∈ j.answers.map (·.1) ∧ n ∉ j.refused := by
  constructor
  · intro mem
    obtain ⟨⟨n, reply⟩, accepted, rfl⟩ := List.mem_map.mp mem
    obtain ⟨answer, done⟩ := List.mem_filter.mp accepted
    refine ⟨List.mem_map_of_mem answer, fun refused => ?_⟩
    obtain ⟨other, refused, same⟩ := List.mem_map.mp refused
    obtain ⟨answer', undone⟩ := List.mem_filter.mp refused
    rw [List.inj_on_of_nodup_map once answer' answer same] at undone
    simp_all
  · rintro ⟨mem, unrefused⟩
    obtain ⟨⟨n, reply⟩, answer, rfl⟩ := List.mem_map.mp mem
    refine List.mem_map.mpr ⟨_, List.mem_filter.mpr ⟨answer, ?_⟩, rfl⟩
    by_contra undone
    exact unrefused (List.mem_map.mpr ⟨_, List.mem_filter.mpr ⟨answer, by simpa using undone⟩, rfl⟩)

end Journal

/-- Whether a frame has its number and was not counted yet. -/
def Phase.isShowing : Phase → Bool
  | presenting _ | publishing .presented | publishing (.failed (.presentFailed _)) => true
  | _ => false

theorem Phase.notified_showing (p : Phase) :
    p.notified = p ∨ p.isShowing = false ∧ p.notified.isShowing = false := by
  rcases p.notified_eq_or with same | parked
  · exact .inl same
  · exact .inr (by rw [parked]; exact ⟨rfl, rfl⟩)

theorem HeadlessDisplay.present_cases {resource : UInt64} {frame : Frame} {d d' : HeadlessDisplay}
    {reply : Reply} (answer : Display.present resource frame d = (reply, d')) :
    reply = .done ∧ d'.presented = d.presented + 1 ∨
      (∃ reason, reply = .failed reason) ∧ d'.presented = d.presented := by
  rcases present_ends resource frame d with ⟨_, ended⟩ | ⟨_, _, ended⟩ | ⟨_, _, ended⟩
  · simp only [Display.present, ended] at answer
    cases answer
    exact .inr ⟨⟨_, rfl⟩, rfl⟩
  · simp only [Display.present, ended] at answer
    cases answer
    exact .inr ⟨⟨_, rfl⟩, rfl⟩
  · simp only [Display.present, ended] at answer
    cases answer
    exact .inl ⟨rfl, rfl⟩

theorem HeadlessDisplay.presented_release (id : UInt64) (d : HeadlessDisplay) :
    (Display.release id d).presented = d.presented := by
  simp only [Display.release, HeadlessDisplay.release]
  split <;> rfl

def Event.sparesDisplay (d : HeadlessDisplay) : Event HeadlessDisplay → Prop
  | .outside d' => d'.presented = d.presented
  | _ => True

instance (d : HeadlessDisplay) (e : Event HeadlessDisplay) : Decidable (e.sparesDisplay d) := by
  cases e <;> unfold Event.sparesDisplay <;> infer_instance

namespace Machine

variable {σ : Type}

def attended (σ : Type) [Renderer σ] :
    System ((Machine σ × HeadlessDisplay) × Journal) (Event HeadlessDisplay) :=
  (journaled σ HeadlessDisplay).restrict fun c e => e.sparesDisplay c.1.2

instance [Renderer σ] (c : (Machine σ × HeadlessDisplay) × Journal) (e : Event HeadlessDisplay) :
    Decidable ((attended σ).Enabled c e) :=
  inferInstanceAs (Decidable ((journaled σ HeadlessDisplay).Enabled c e ∧ e.sparesDisplay c.1.2))

/-- How far the latest frame that has a number has come. -/
inductive Standing (m : Machine σ) (j : Journal) : Prop where
  | even (here : m.phase.isShowing = false) (given : m.sequence = j.answers.length)
      (counted : j.answers.length = m.shared.tally.presented + m.shared.tally.presentFailures)
      (shown : j.accepted.length = m.shared.tally.presented)
  | offered (frame) (here : m.phase = .presenting frame) (number : frame.sequence = m.sequence)
      (given : m.sequence = j.answers.length + 1)
      (counted : j.answers.length = m.shared.tally.presented + m.shared.tally.presentFailures)
      (shown : j.accepted.length = m.shared.tally.presented)
  | accepted (here : m.phase = .publishing .presented) (given : m.sequence = j.answers.length)
      (counted : j.answers.length = m.shared.tally.presented + m.shared.tally.presentFailures + 1)
      (shown : j.accepted.length = m.shared.tally.presented + 1)
  | refused (reason) (here : m.phase = .publishing (.failed (.presentFailed reason)))
      (given : m.sequence = j.answers.length)
      (counted : j.answers.length = m.shared.tally.presented + m.shared.tally.presentFailures + 1)
      (shown : j.accepted.length = m.shared.tally.presented)

structure Numbered (d₀ : HeadlessDisplay) (m : Machine σ) (d : HeadlessDisplay) (j : Journal) : Prop
    where
  numbers : j.answers.map (·.1) = (List.range' 1 j.answers.length).reverse
  composed : m.sequence = j.composes
  kept : d.presented = d₀.presented + j.accepted.length
  standing : Standing m j

namespace Numbered

theorem initial (info : DisplayInfo) (resource : UInt64) (shape : BufferShape) (renderer : σ)
    (d₀ : HeadlessDisplay) : Numbered d₀ (Machine.fresh info resource shape renderer) d₀ {} where
  numbers := rfl
  composed := rfl
  kept := rfl
  standing := .even rfl rfl rfl rfl

variable {d₀ d d' : HeadlessDisplay} {m m' : Machine σ} {j j' : Journal}

theorem onward (h : Numbered d₀ m d j) (answers : j'.answers = j.answers)
    (composes : j'.composes = j.composes) (sequence : m'.sequence = m.sequence)
    (presented : m'.shared.tally.presented = m.shared.tally.presented)
    (failures : m'.shared.tally.presentFailures = m.shared.tally.presentFailures)
    (display : d'.presented = d.presented)
    (phase : m'.phase = m.phase ∨ m.phase.isShowing = false ∧ m'.phase.isShowing = false) :
    Numbered d₀ m' d' j' := by
  have accepted : j'.accepted = j.accepted := by simp only [Journal.accepted, answers]
  refine ⟨?_, ?_, ?_, ?_⟩
  · rw [answers]
    exact h.numbers
  · rw [sequence, composes]
    exact h.composed
  · rw [display, accepted]
    exact h.kept
  · have stays {p : Phase} (here : m.phase = p) (showing : p.isShowing = true) : m'.phase = p := by
      rcases phase with same | ⟨before, _⟩
      · exact same.trans here
      · simp [here, showing] at before
    cases h.standing with
    | even here given counted shown =>
      refine .even (phase.elim (· ▸ here) (·.2)) ?_ ?_ ?_
      all_goals simpa only [answers, accepted, sequence, presented, failures]
    | offered frame here number given counted shown =>
      refine .offered frame (stays here rfl) ?_ ?_ ?_ ?_
      all_goals simpa only [answers, accepted, sequence, presented, failures]
    | accepted here given counted shown =>
      refine .accepted (stays here rfl) ?_ ?_ ?_
      all_goals simpa only [answers, accepted, sequence, presented, failures]
    | refused reason here given counted shown =>
      refine .refused reason (stays here rfl) ?_ ?_ ?_
      all_goals simpa only [answers, accepted, sequence, presented, failures]

theorem compose (h : Numbered d₀ m d j) {frame : Submission} (here : m.phase = .composing frame)
    (sequence : m'.sequence = m.sequence + 1) (tally : m'.shared.tally = m.shared.tally)
    (phase : m'.phase = .presenting { buffer := frame.buffer, sequence := m.sequence + 1 }) :
    Numbered d₀ m' d (j.write (.composed j.inHand .done)) := by
  cases h.standing with
  | even _ given counted shown =>
    refine ⟨h.numbers, ?_, h.kept, .offered _ phase sequence.symm ?_ ?_ ?_⟩
    · rw [sequence, h.composed]
      simp [Journal.composes, Journal.write, Entry.isComposed]
    · rw [sequence, given]
      rfl
    · rw [tally]
      exact counted
    · rw [tally]
      exact shown
  | offered _ there | accepted there | refused _ there => simp [here] at there

theorem answer (h : Numbered d₀ m d j) {frame : Frame} (reply : Reply)
    (here : m.phase = .presenting frame)
    (display : d'.presented = d.presented + if reply = .done then 1 else 0)
    (sequence : m'.sequence = m.sequence) (tally : m'.shared.tally = m.shared.tally)
    (phase : reply = .done ∧ m'.phase = .publishing .presented ∨
      ∃ reason, reply = .failed reason ∧ m'.phase = .publishing (.failed (.presentFailed reason))) :
    Numbered d₀ m' d' (j.write (.shown j.inHand frame reply)) := by
  cases h.standing with
  | offered frame' there number given counted shown =>
    obtain rfl : frame' = frame := by simpa [there] using here
    have answers : (j.write (.shown j.inHand frame' reply)).answers =
        (frame'.sequence, reply) :: j.answers := rfl
    have accepted : (j.write (.shown j.inHand frame' reply)).accepted.length =
        j.accepted.length + if reply = .done then 1 else 0 := by
      rw [Journal.accepted_write_shown]
      split <;> rfl
    refine ⟨?_, ?_, ?_, ?_⟩
    · rw [answers, List.length_cons, List.range'_concat, List.reverse_append, List.map_cons, h.numbers,
        number, given, Nat.one_mul, Nat.add_comm 1]
      rfl
    · rw [sequence]
      exact h.composed
    · rw [display, accepted, h.kept, Nat.add_assoc]
    · rcases phase with ⟨rfl, phase⟩ | ⟨reason, rfl, phase⟩
      · refine .accepted phase ?_ ?_ ?_
        · rw [sequence, given, answers, List.length_cons]
        · rw [answers, List.length_cons, counted, tally]
        · rw [accepted, shown, tally, if_pos rfl]
      · refine .refused reason phase ?_ ?_ ?_
        · rw [sequence, given, answers, List.length_cons]
        · rw [answers, List.length_cons, counted, tally]
        · rw [accepted, shown, tally, if_neg (by simp)]
          rfl
  | even there =>
    simp [here, Phase.isShowing] at there
  | accepted there | refused _ there => simp [here] at there

theorem publish (h : Numbered d₀ m d j) {r : Rendered} (here : m.phase = .publishing r)
    (sequence : m'.sequence = m.sequence) (tally : m'.shared.tally = m.shared.tally.count r)
    (phase : m'.phase.isShowing = false) :
    Numbered d₀ m' d { j with offered := j.inHand, inHand := none } := by
  refine ⟨h.numbers, sequence ▸ h.composed, h.kept, ?_⟩
  cases h.standing with
  | even there given counted shown =>
    -- A frame that has no number counts as something else.
    have other : m'.shared.tally.presented = m.shared.tally.presented ∧
        m'.shared.tally.presentFailures = m.shared.tally.presentFailures := by
      rw [tally]
      rw [here] at there
      cases r with
      | presented => cases there
      | discarded => exact ⟨rfl, rfl⟩
      | failed e =>
        cases e with
        | presentFailed => cases there
        | _ => exact ⟨rfl, rfl⟩
    refine .even phase (sequence.trans given) ?_ ?_
    · rw [other.1, other.2]
      exact counted
    · rw [other.1]
      exact shown
  | offered frame there => simp [here] at there
  | accepted there given counted shown =>
    obtain rfl : r = .presented := by simpa [here] using there
    refine .even phase (sequence.trans given) ?_ ?_
    · rw [tally]
      simp only [Tally.count]
      exact counted.trans (Nat.add_right_comm ..)
    · rw [tally]
      exact shown
  | refused reason there given counted shown =>
    obtain rfl : r = .failed (.presentFailed reason) := by simpa [here] using there
    refine .even phase (sequence.trans given) ?_ ?_
    · rw [tally]
      exact counted
    · rw [tally]
      exact shown

end Numbered

variable [Renderer σ] {d₀ d : HeadlessDisplay} {m : Machine σ} {j : Journal}

theorem step_preserves_numbered {e : Event HeadlessDisplay} {c : Machine σ × HeadlessDisplay}
    (life : Lifetime m) (passing : Passing m) (h : Numbered d₀ m d j) (spares : e.sparesDisplay d)
    (move : Move m d e c) : Numbered d₀ c.1 c.2 (j.noted m d e) := by
  cases move with
  | requestRefused | acquireRefused | acquire | reallocateRefused | reallocate | join | request
  | startRefused | startCrashed | strayWakeCaller =>
    exact h.onward rfl rfl rfl rfl rfl rfl (.inl rfl)
  | start _ _ _ _ _ present =>
    have absent := life.renderer_absent present
    exact h.onward rfl rfl rfl rfl rfl rfl (.inr ⟨by rw [absent]; rfl, rfl⟩)
  | rejected ticket b err unused unreturned invalid =>
    rw [Journal.noted_of_invalid invalid]
    exact h.onward rfl rfl rfl rfl rfl rfl (.inl rfl)
  | releasedIdle ticket b unused unreturned valid off =>
    rw [Journal.noted_of_off valid off]
    exact h.onward rfl rfl rfl rfl rfl rfl (.inl rfl)
  | discarded ticket b unused unreturned valid alive hidden =>
    rw [Journal.noted_of_hidden valid alive hidden]
    exact h.onward rfl rfl rfl rfl rfl rfl (.inl rfl)
  | offerRefused ticket b unused unreturned valid alive visible running occupied =>
    rw [Journal.noted_of_occupied valid alive visible running occupied]
    exact h.onward rfl rfl rfl rfl rfl rfl (.inl rfl)
  | handOver ticket b unused unreturned valid alive running visible idle =>
    rw [Journal.noted_of_idle valid alive visible running idle]
    exact h.onward rfl rfl rfl rfl rfl rfl m.phase.notified_showing
  | shutdownAgain dead =>
    rw [Journal.noted_of_dead dead]
    exact h
  | shutdownRunning alive | shutdownHalted alive =>
    rw [Journal.noted_of_alive alive]
    exact h.onward rfl rfl rfl rfl rfl rfl m.phase.notified_showing
  | begin here | started _ _ here | startFailed _ _ _ here | startBroke _ _ here
  | recordFault _ here =>
    have noted : j.noted m d .work = j := by simp [Journal.noted, here]
    rw [noted]
    exact h.onward rfl rfl rfl rfl rfl rfl (.inr ⟨by rw [here]; rfl, rfl⟩)
  | park here running none =>
    rw [Journal.noted_of_empty here running none]
    exact h.onward rfl rfl rfl rfl rfl rfl (.inr ⟨by rw [here]; rfl, rfl⟩)
  | stop here halted =>
    rw [Journal.noted_of_halted here halted]
    exact h.onward rfl rfl rfl rfl rfl rfl (.inr ⟨by rw [here]; rfl, rfl⟩)
  | take frame here running ready visible =>
    rw [Journal.noted_of_visible here running ready visible]
    exact h.onward rfl rfl rfl rfl rfl rfl (.inr ⟨by rw [here]; rfl, rfl⟩)
  | skip frame here running ready hidden =>
    rw [Journal.noted_of_skip here running ready hidden]
    exact h.onward rfl rfl rfl rfl rfl rfl (.inr ⟨by rw [here]; rfl, rfl⟩)
  | composed frame renderer here reply =>
    rw [Journal.noted_of_composing here reply]
    exact h.compose here rfl rfl rfl
  | composeFailed _ _ _ here reply | composeBroke _ _ here reply =>
    rw [Journal.noted_of_composing here reply]
    exact h.onward rfl rfl rfl rfl rfl rfl (.inr ⟨by rw [here]; rfl, rfl⟩)
  | presented frame d' here reply =>
    rw [Journal.noted_of_presenting here reply]
    rcases HeadlessDisplay.present_cases reply with ⟨_, counted⟩ | ⟨⟨_, other⟩, _⟩
    · exact h.answer .done here counted rfl rfl (.inl ⟨rfl, rfl⟩)
    · cases other
  | presentFailed frame d' reason here reply =>
    rw [Journal.noted_of_presenting here reply]
    rcases HeadlessDisplay.present_cases reply with ⟨other, _⟩ | ⟨_, uncounted⟩
    · cases other
    · exact h.answer (.failed reason) here (by simpa using uncounted) rfl rfl (.inr ⟨reason, rfl, rfl⟩)
  | presentBroke frame d' here reply =>
    rcases HeadlessDisplay.present_cases reply with ⟨other, _⟩ | ⟨⟨_, other⟩, _⟩ <;> cases other
  | publish r here =>
    have rendering := passing.drawing_rendering (by simp [here, Phase.isDrawing])
    rw [Journal.noted_of_publishing here rendering]
    exact h.publish here rfl rfl rfl
  | leave crashed here =>
    rw [Journal.noted_of_leaving here]
    refine h.onward rfl rfl rfl ?_ ?_ rfl (.inr ⟨by rw [here]; rfl, rfl⟩)
    all_goals simp [wakeAll, Session.exit_eq]
  | waitOn ticket woken must clean =>
    rw [Journal.noted_of_wait must clean]
    exact h.onward rfl rfl rfl rfl rfl rfl (.inl rfl)
  | collect ticket woken settled =>
    rw [Journal.noted_of_settled settled]
    refine h.onward rfl rfl rfl ?_ ?_ rfl (.inl rfl)
    all_goals simp [Session.collect_snd, Session.checkIn]
  | relinquish => exact h.onward rfl rfl rfl rfl rfl (HeadlessDisplay.presented_release _ _) (.inl rfl)
  | strayWakeRender here => exact h.onward rfl rfl rfl rfl rfl rfl (.inr ⟨by rw [here]; rfl, rfl⟩)
  | outside d' => exact h.onward rfl rfl rfl rfl rfl spares (.inl rfl)

theorem reachable_numbered (info : DisplayInfo) (resource : UInt64) (shape : BufferShape)
    (renderer : σ) (d₀ : HeadlessDisplay) {c : (Machine σ × HeadlessDisplay) × Journal}
    (h : (attended σ).Reachable ((Machine.fresh info resource shape renderer, d₀), {}) c) :
    Numbered d₀ c.1.1 c.1.2 c.2 := by
  refine h.invariant (I := fun c => Numbered d₀ c.1.1 c.1.2 c.2)
    (Numbered.initial info resource shape renderer d₀) ?_
  intro c e here numbered enabled
  have followed := reachable_followed info resource shape renderer d₀ here.of_restrict
  exact step_preserves_numbered followed.life followed.passing numbered enabled.2
    (next_move c.1.1 c.1.2 e enabled.1.1)

/-- The frames that the display is offered are numbered without a gap, one for each that the renderer
composed. But for an answer that is to be published, the session's counters say how many the display was
offered and how many it accepted. Those have ascending numbers, and what is missing was refused. -/
theorem frames_are_numbered (info : DisplayInfo) (resource : UInt64) (shape : BufferShape)
    (renderer : σ) (d₀ : HeadlessDisplay) {c : (Machine σ × HeadlessDisplay) × Journal}
    (h : (attended σ).Reachable ((Machine.fresh info resource shape renderer, d₀), {}) c) :
    let offered := (c.1.1.calls.filterMap RenderCall.present?).reverse
    offered.map (·.sequence) = List.range' 1 offered.length ∧
    c.1.1.sequence = c.2.composes ∧
    (c.1.1.sequence = offered.length ∨ ∃ frame, c.1.1.phase = .presenting frame ∧
      frame.sequence = c.1.1.sequence ∧ c.1.1.sequence = offered.length + 1) ∧
    c.1.2.presented = d₀.presented + c.2.accepted.length ∧
    ((∀ r, c.1.1.phase ≠ .publishing r) →
      offered.length = c.1.1.shared.tally.presented + c.1.1.shared.tally.presentFailures ∧
        c.2.accepted.length = c.1.1.shared.tally.presented) ∧
    c.2.accepted.reverse.Pairwise (· < ·) ∧
    ∀ n, n ∈ c.2.accepted ↔ (1 ≤ n ∧ n ≤ offered.length) ∧ n ∉ c.2.refused := by
  intro offered
  obtain ⟨numbers, composed, kept, standing⟩ :=
    reachable_numbered info resource shape renderer d₀ h
  have recorded :=
    (reachable_followed info resource shape renderer d₀ h.of_restrict).recorded
  have sequences : offered.map (·.sequence) = (c.2.answers.map (·.1)).reverse := by
    rw [Journal.answers_numbers, recorded.shown, List.map_reverse]
  have length : offered.length = c.2.answers.length := by
    simpa using congrArg List.length sequences
  have ascending : (c.2.answers.map (·.1)).reverse = List.range' 1 offered.length := by
    rw [numbers, List.reverse_reverse, length]
  refine ⟨sequences.trans ascending, composed, ?_, kept, ?_, ?_, ?_⟩
  · cases standing with
    | even _ given | accepted _ given | refused _ _ given => exact .inl (given.trans length.symm)
    | offered frame here number given => exact .inr ⟨frame, here, number, length ▸ given⟩
  · intro published
    cases standing with
    | even _ _ counted shown | offered _ _ _ _ counted shown => exact ⟨length.trans counted, shown⟩
    | accepted here | refused _ here => exact absurd here (published _)
  · have part : c.2.accepted.reverse.Sublist (c.2.answers.map (·.1)).reverse :=
      (List.filter_sublist.map _).reverse
    rw [ascending] at part
    exact List.Pairwise.sublist part List.pairwise_lt_range'
  · intro n
    have once : (c.2.answers.map (·.1)).Nodup := by
      rw [numbers, List.nodup_reverse]
      exact List.nodup_range'
    have given : n ∈ c.2.answers.map (·.1) ↔ 1 ≤ n ∧ n ≤ offered.length := by
      rw [← List.mem_reverse, ascending, List.mem_range'_1]
      omega
    rw [Journal.mem_accepted_iff once, given]

/-- The first frame is refused, and the second goes on with the next number. -/
theorem frames_are_numbered_after_refusal :
    let shape : BufferShape := ⟨4, 2, 1, .rgba8888, .none, 4⟩
    let d₀ : HeadlessDisplay := { owner := some 1 }
    let c₀ : (Machine Rehearsal × HeadlessDisplay) × Journal :=
      ((Machine.fresh ⟨1, "panel", 4, 2, 0⟩ 1 shape {}, d₀), {})
    let frame (t : Nat) : List (Event HeadlessDisplay) :=
      [.acquire, .release t ⟨shape, 1, 1, []⟩, .work, .work, .work, .work, .resume t]
    let es := [.outside (d₀.failNext 1), .setState .visible .started, .work, .work] ++ frame 0 ++ frame 1
    let c := (attended Rehearsal).run c₀ es
    (attended Rehearsal).Valid c₀ es ∧ c.2.refused = [1] ∧ 2 ∈ c.2.accepted := by
  intro shape d₀ c₀ frame es c
  have valid : (attended Rehearsal).Valid c₀ es := by decide
  have length : (c.1.1.calls.filterMap RenderCall.present?).reverse.length = 2 := by decide
  have refused : c.2.refused = [1] := by decide
  have all := frames_are_numbered _ _ _ _ _ ⟨es, valid, rfl⟩
  refine ⟨valid, refused, (all.2.2.2.2.2.2 2).mpr ⟨⟨by decide, length.ge⟩, ?_⟩⟩
  decide

end Machine

end DisplaySurface
