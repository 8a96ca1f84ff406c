import DisplaySurface.Proofs.Machine.Endurance
import DisplaySurface.Proofs.Machine.Freshness
import DisplaySurface.Proofs.Picture.Pixels

/-!
What a display gets to show. The renderer composes into a store of its own, between other frames and for
buffers that come and go. While a frame is presented, what the renderer keeps is the picture of the layers
that were released for that frame, in the live buffer.
-/

namespace DisplaySurface

@[simp] theorem Phase.notified_eq_presenting (p : Phase) (frame : Frame) :
    p.notified = presenting frame ↔ p = presenting frame := by
  cases p <;> simp [notified]

namespace Painter

variable {p p' : Painter} {target : LiveBuffer} {layers : List Layer} {reply : Reply}

theorem compose_of_done (h : Renderer.compose target layers p = (.done, p')) :
    p.compose target layers = (.done, p') := by
  rcases composed : p.compose target layers with ⟨painted, next⟩
  simp only [Renderer.compose, composed] at h
  cases painted with
  | done =>
    cases h
    rfl
  | refused | crashed => cases h

theorem compose_clearColor (h : Renderer.compose target layers p = (reply, p')) :
    p'.clearColor = p.clearColor := by
  have kept : (p.compose target layers).2.clearColor = p.clearColor := by
    unfold compose
    repeat' split
    all_goals rfl
  rw [← kept]
  exact congrArg (·.2.clearColor) h.symm

end Painter

namespace Machine

variable {δ ε : Type}

/-- What the render thread works with: a buffer of a good shape, and a renderer whose store fits it and
that is started before it is called. -/
structure Prepared (m : Machine Painter) (clear : Rgba) : Prop where
  valid : m.shared.slot.live.shape.check = .ok ()
  fits : m.renderer.Fits m.shared.slot.live
  ground : m.renderer.clearColor = clear
  started : m.phase.isLooping = true → m.renderer.started = true

/-- While a frame is presented, the renderer keeps the picture of the layers that were handed over. -/
def Portrays (m : Machine Painter) (clear : Rgba) (j : Journal) : Prop :=
  ∀ frame, m.phase = .presenting frame → ∃ t layers, j.inHand = some t ∧
    .handedOver t layers ∈ j.entries ∧ m.renderer.lastFrame.Depicts m.shared.slot.live clear layers

variable {m m' : Machine Painter} {d : δ} {clear : Rgba} {j : Journal}

namespace Prepared

theorem initial {shape : BufferShape} (check : shape.check = .ok ()) (info : DisplayInfo)
    (resource : UInt64) : Prepared (fresh info resource shape { clearColor := clear }) clear where
  valid := check
  fits := by simp [fresh, Painter.Fits]
  ground := rfl
  started := by simp [fresh, Phase.isLooping]

theorem onward (h : Prepared m clear) (live : m'.shared.slot.live = m.shared.slot.live)
    (renderer : m'.renderer = m.renderer)
    (looping : m'.phase.isLooping = true → m.phase.isLooping = true) : Prepared m' clear := by
  constructor
  · simpa only [live] using h.valid
  · simpa only [live, renderer] using h.fits
  · simpa only [renderer] using h.ground
  · rw [renderer]
    exact fun here => h.started (looping here)

variable [Display δ]

theorem compose_reply (h : Prepared m clear) (pinned : Pinned m) {frame : Submission} {reply : Reply}
    {renderer : Painter} (here : m.phase = .composing frame)
    (answer : Renderer.compose frame.buffer frame.layers m.renderer = (reply, renderer)) :
    reply = m.shared.slot.live.shape.answer ∧ renderer.started = true ∧
      renderer.Fits m.shared.slot.live := by
  have live := pinned.inCall frame.buffer (by simp [here, Phase.buffer?])
  rw [live] at answer
  exact Painter.compose_reply (h.started (by simp [here, Phase.isLooping])) h.fits h.valid answer

end Prepared

theorem Portrays.onward {j' : Journal} (h : Portrays m clear j)
    (live : m'.shared.slot.live = m.shared.slot.live) (renderer : m'.renderer = m.renderer)
    (phase : ∀ frame, m'.phase = .presenting frame → m.phase = .presenting frame)
    (inHand : j'.inHand = j.inHand) (keep : j.entries ⊆ j'.entries) : Portrays m' clear j' := by
  intro frame there
  obtain ⟨t, layers, owner, mem, depicts⟩ := h frame (phase frame there)
  refine ⟨t, layers, inHand.trans owner, keep mem, ?_⟩
  rwa [live, renderer]

variable [Display δ]

theorem step_preserves_prepared {e : Event δ} {c : Machine Painter × δ} (pinned : Pinned m)
    (h : Prepared m clear) (move : Move m d e c) : Prepared c.1 clear := by
  cases move with
  | requestRefused | request | startRefused | startCrashed | acquireRefused | acquire | rejected
  | releasedIdle | discarded | offerRefused | reallocateRefused | shutdownAgain | waitOn | join
  | relinquish | strayWakeCaller | outside => exact h.onward rfl rfl id
  | collect => exact h.onward (by simp) rfl id
  | handOver | shutdownRunning | shutdownHalted =>
    exact h.onward rfl rfl (by simp [wakeAll])
  | start | begin | recordFault | stop | presentBroke =>
    exact h.onward rfl rfl (by simp [Phase.isLooping])
  | park here | take _ here | skip _ here | presented _ _ here | presentFailed _ _ _ here
  | publish _ here | strayWakeRender here =>
    exact h.onward rfl rfl (by simp [here, Phase.isLooping])
  | leave => exact h.onward (by simp [wakeAll]) rfl (by simp [wakeAll, Phase.notified, Phase.isLooping])
  | reallocate shape alive idle valid =>
    exact ⟨valid, h.fits.onward (Nat.lt_succ_self _), h.ground, h.started⟩
  | started shape renderer here reply =>
    rcases Painter.start_reply reply with ⟨_, rfl⟩ | ⟨⟨_, other⟩, _⟩
    · exact ⟨h.valid, h.fits, h.ground, fun _ => rfl⟩
    · cases other
  | startFailed shape renderer reason here reply =>
    rcases Painter.start_reply reply with ⟨other, _⟩ | ⟨_, rfl⟩
    · cases other
    · exact h.onward rfl rfl (by simp [Phase.isLooping])
  | startBroke shape renderer here reply =>
    rcases Painter.start_reply reply with ⟨other, _⟩ | ⟨⟨_, other⟩, _⟩ <;> cases other
  | composed frame renderer here reply | composeFailed frame renderer _ here reply
  | composeBroke frame renderer here reply =>
    obtain ⟨_, started, fits⟩ := h.compose_reply pinned here reply
    exact ⟨h.valid, fits, (Painter.compose_clearColor reply).trans h.ground, fun _ => started⟩

/-- A frame that goes to the display was composed in the step before, and nothing but the display's answer
ends that. -/
theorem step_preserves_portrays {e : Event δ} {c : Machine Painter × δ} (passing : Passing m)
    (pinned : Pinned m) (booked : Booked m j) (prepared : Prepared m clear) (h : Portrays m clear j)
    (move : Move m d e c) : Portrays c.1 clear (j.noted m d e) := by
  have keep := (Journal.suffix_noted m d e j).subset
  cases move with
  | requestRefused | request | startRefused | startCrashed | acquireRefused | acquire | rejected
  | releasedIdle | discarded | offerRefused | reallocateRefused | shutdownAgain | waitOn | join
  | relinquish | strayWakeCaller | outside =>
    exact h.onward rfl rfl (fun _ => id) (Journal.inHand_noted j (by simp)) keep
  | collect => exact h.onward (by simp) rfl (fun _ => id) (Journal.inHand_noted j (by simp)) keep
  | handOver | shutdownRunning | shutdownHalted =>
    exact h.onward rfl rfl (by simp [wakeAll]) (Journal.inHand_noted j (by simp)) keep
  | reallocate shape alive idle =>
    -- No frame is on its way, so there is none that is presented.
    have undrawn := passing.undrawn_of_idle idle
    intro shown there
    simp only at there
    simp [there, Phase.isDrawing] at undrawn
  | composed frame renderer here reply =>
    rintro _ ⟨⟩
    obtain ⟨t, handed, owner, mem, sorted⟩ := booked.sound.handed_in_order (booked.composing frame here).1
    have live := pinned.inCall frame.buffer (by simp [here, Phase.buffer?])
    refine ⟨t, handed, ?_, keep mem, ?_⟩
    · rw [Journal.noted_of_composing here reply]
      exact owner
    · rw [live, sorted] at reply
      obtain ⟨_, depicts⟩ := Painter.compose_depicts prepared.fits (Painter.compose_of_done reply)
      rwa [prepared.ground] at depicts
  | start | begin | started | startFailed | startBroke | recordFault | park | stop | take | skip
  | composeFailed | composeBroke | presented | presentFailed | presentBroke | strayWakeRender =>
    rintro _ ⟨⟩
  | publish => simp [Portrays, wakeCallers]
  | leave => simp [Portrays, wakeAll, Phase.notified]

structure Portraying (clear : Rgba) (c : (Machine Painter × δ) × Journal) : Prop where
  followed : Followed c
  pinned : Pinned c.1.1
  prepared : Prepared c.1.1 clear
  portrays : Portrays c.1.1 clear c.2

theorem reachable_portraying {info : DisplayInfo} {resource : UInt64} {shape : BufferShape} {d : δ}
    (check : shape.check = .ok ()) {c : (Machine Painter × δ) × Journal}
    (h : (journaled Painter δ).Reachable
      ((fresh info resource shape { clearColor := clear }, d), {}) c) : Portraying clear c := by
  refine h.invariant (I := Portraying clear) ?_ fun c e _ holds enabled => ?_
  · exact ⟨.initial info resource shape _ d, .initial info resource shape _,
      .initial check info resource, by simp [Portrays, fresh]⟩
  · have move := next_move c.1.1 c.1.2 e enabled.1
    obtain ⟨followed, pinned, prepared, portrays⟩ := holds
    exact ⟨step_preserves_followed followed enabled,
      step_preserves_pinned followed.passing pinned move,
      step_preserves_prepared pinned prepared move,
      step_preserves_portrays followed.passing pinned followed.booked prepared portrays move⟩

theorem presenting_of_call {e : Event δ} {c : Machine Painter × δ} {frame : Frame} (move : Move m d e c)
    (made : c.1.calls = .present frame :: m.calls) : e = .work ∧ m.phase = .presenting frame := by
  cases move with
  | begin | take => cases (List.cons.inj made).1
  | presented _ _ here | presentFailed _ _ _ here | presentBroke _ _ here =>
    cases (List.cons.inj made).1
    exact ⟨rfl, here⟩
  | _ => exact absurd made.symm (List.cons_ne_self _ m.calls)

theorem calls_of_presenting {frame : Frame} (here : m.phase = .presenting frame) (d : δ) :
    (m.work d).1.calls = .present frame :: m.calls := by
  simp [Machine.work, here]

/-- A frame for a live buffer that can be drawn and allocated is composed and goes to the display. When
the display is called with the frame of a release, the renderer's last frame has the live buffer's
fingerprint and size, and each of its points has the colour of the highest layer there, of equally high
ones the last that was released, and the clear colour where there is none. Released in any other order
that keeps layers of equal height as they are to each other, the same layers give the same picture. -/
theorem presented_frames_show_layers {grant : UInt64 → δ → Except ε UInt64 × δ} {info : DisplayInfo}
    {shape : BufferShape} {d₀ d : δ} {m : Machine Painter}
    (made : createOn grant info shape ({ clearColor := clear } : Painter) d₀ = (.ok m, d))
    {c : (Machine Painter × δ) × Journal} (h : (journaled Painter δ).Reachable ((m, d), {}) c) :
    let live := c.1.1.shared.slot.live
    (∀ frame, c.1.1.phase = .composing frame → live.shape.format.isRgba = true →
      live.shape.size ≤ 2 ^ 63 - 1 → ∃ composed : Frame, composed.buffer = live ∧
        ((journaled Painter δ).next c .work).1.1.phase = .presenting composed) ∧
    ∀ e, (journaled Painter δ).Enabled c e → ∀ frame,
      ((journaled Painter δ).next c e).1.1.calls = .present frame :: c.1.1.calls →
      ∃ t layers reply,
        ((journaled Painter δ).next c e).2.entries = .shown (some t) frame reply :: c.2.entries ∧
        .handedOver t layers ∈ c.2.entries ∧ frame.buffer = live ∧
        c.1.1.renderer.lastFrame.Depicts live clear layers ∧
        ∀ layers', layers'.Perm layers ∧ (layers.map (·.zOrder)).Nodup ∨
            Layer.Rearranged layers layers' →
          ∀ s : Snapshot, s.Depicts live clear layers' →
            ∀ x y, s.pixel x y = c.1.1.renderer.lastFrame.pixel x y := by
  obtain ⟨check, resource, rfl⟩ := createOn_ok made
  obtain ⟨followed, pinned, prepared, portrays⟩ := reachable_portraying check h
  intro live
  constructor
  · intro frame here rgba small
    have same := pinned.inCall frame.buffer (by simp [here, Phase.buffer?])
    rcases reply : Renderer.compose frame.buffer frame.layers c.1.1.renderer with ⟨answer, renderer⟩
    obtain ⟨done, _⟩ := prepared.compose_reply pinned here reply
    have done : answer = .done := by
      rw [done, BufferShape.answer, if_pos rgba]
      exact if_pos small
    refine ⟨⟨frame.buffer, c.1.1.sequence + 1⟩, same, ?_⟩
    simp [journaled, System.observed, system, next, Machine.work, here, reply, done]
  · intro e enabled frame called
    obtain ⟨rfl, here⟩ := presenting_of_call (next_move c.1.1 c.1.2 e enabled.1) called
    obtain ⟨t, layers, owner, handed, depicts⟩ := portrays frame here
    refine ⟨t, layers, (Display.present c.1.1.resource frame c.1.2).1, ?_, handed,
      pinned.inCall frame.buffer (by simp [here, Phase.buffer?]), depicts, ?_⟩
    · have shown := Journal.noted_of_presenting (j := c.2) (d := c.1.2) here rfl
      rw [owner] at shown
      exact congrArg Journal.entries shown
    · intro layers' other s pictured x y
      have rearranged : Layer.Rearranged layers layers' :=
        other.elim (fun distinct => Layer.rearranged_of_perm distinct.1 distinct.2) id
      exact (depicts.rearranged rearranged).pixel_eq pictured x y

/-- Rows are padded, two of the layers are equally high, and one reaches beyond the buffer and all
counts. -/
theorem presented_frames_show_layers_overlapping :
    let shape : BufferShape := ⟨3, 1, 1, .rgbx8888, .none, 4⟩
    let black : Rgba := ⟨0, 0, 0, 255⟩
    let red : Layer := ⟨0, ⟨1, 0, 1, 1⟩, ⟨255, 0, 0, 255⟩⟩
    let green : Layer := ⟨-1, ⟨1, 0, 4294967295, 4294967295⟩, ⟨0, 255, 0, 255⟩⟩
    let blue : Layer := ⟨0, ⟨1, 0, 1, 1⟩, ⟨0, 0, 255, 255⟩⟩
    let m : Machine Painter := fresh ⟨1, "panel", 3, 1, 0⟩ 1 shape { clearColor := black }
    let d : HeadlessDisplay := { owner := some 1, acquireCalls := 1 }
    let es : List (Event HeadlessDisplay) :=
      [.setState .visible .started, .acquire, .release 0 ⟨shape, 1, 1, [red, green, blue]⟩, .work, .work,
        .work]
    let c := (journaled Painter HeadlessDisplay).run ((m, d), {}) es
    let c' := (journaled Painter HeadlessDisplay).next c .work
    createOn HeadlessDisplay.acquire ⟨1, "panel", 3, 1, 0⟩ shape ({ clearColor := black } : Painter) {} =
        (.ok m, d) ∧
      (journaled Painter HeadlessDisplay).Valid ((m, d), {}) es ∧
      c'.1.1.renderer.lastFrame.Depicts ⟨shape, 1, 1⟩ black [red, green, blue] ∧
      c'.1.1.renderer.lastFrame.pixel 1 0 = .ok (some blue.color) := by
  intro shape black red green blue m d es c c'
  have made : createOn HeadlessDisplay.acquire ⟨1, "panel", 3, 1, 0⟩ shape
      ({ clearColor := black } : Painter) {} = (.ok m, d) := rfl
  have valid : (journaled Painter HeadlessDisplay).Valid ((m, d), {}) es := by decide +kernel
  have reachable : (journaled Painter HeadlessDisplay).Reachable ((m, d), {}) c := ⟨es, valid, rfl⟩
  have reachable' : (journaled Painter HeadlessDisplay).Reachable ((m, d), {}) c' :=
    reachable.tail ⟨rfl, trivial⟩
  have live : c.1.1.shared.slot.live = ⟨shape, 1, 1⟩ := rfl
  have here : c.1.1.phase = .composing ⟨⟨shape, 1, 1⟩, Layer.inDrawingOrder [red, green, blue]⟩ := rfl
  obtain ⟨order, before⟩ : ∃ order, c.2.entries = [.drawn (some 0) ⟨shape, 1, 1⟩ order,
      .taken (some 0) .visible, .handedOver 0 [red, green, blue]] := ⟨_, rfl⟩
  obtain ⟨frame, buffer, there⟩ := (presented_frames_show_layers made reachable).1 _ here rfl (by decide)
  have step : (journaled Painter HeadlessDisplay).next c .work = c' := rfl
  have noted : c'.2 = c.2.noted c.1.1 c.1.2 .work := rfl
  have entries := congrArg Journal.entries
    (noted.trans (Journal.noted_of_composing here (Prod.mk.eta).symm))
  simp only [Journal.write, before] at entries
  rw [live] at buffer
  rw [step] at there
  clear_value c'
  have working : c'.1.1.phase.canWork = true := by rw [there]; rfl
  obtain ⟨t, layers, _, _, handed, same, depicts, _⟩ :=
    (presented_frames_show_layers made reachable').2 .work ⟨working, trivial⟩ frame
      (calls_of_presenting there _)
  obtain rfl : layers = [red, green, blue] := by
    simp only [entries, List.mem_cons, reduceCtorEq, false_or, Entry.handedOver.injEq,
      List.not_mem_nil, or_false] at handed
    exact handed.2
  rw [← same, buffer] at depicts
  refine ⟨made, valid, depicts, ?_⟩
  obtain ⟨color, seen, only⟩ := depicts.shows 1 0 (by decide) (by decide)
  have top : Layer.OnTop [red, green, blue] 1 0 blue :=
    ⟨[red, green], [], rfl, by decide, by decide, by decide⟩
  rw [seen, (only blue.color).mp (.inl ⟨blue, top, rfl⟩)]

end Machine

end DisplaySurface
