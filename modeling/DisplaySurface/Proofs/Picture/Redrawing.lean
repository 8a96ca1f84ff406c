import DisplaySurface.Proofs.Picture.Pixels
import DisplaySurface.System

/-!
A renderer that is used again and again, for buffers of any kind and in any order. What it did before
decides whether it needs a new store, and nothing else: every point of a frame is drawn anew.
-/

namespace DisplaySurface

inductive PaintCall where
  | start (shape : BufferShape)
  | compose (target : LiveBuffer) (layers : List Layer)

theorem bytes_of_pixelAt {bytes : Array UInt8} {i : Nat} {color : Rgba}
    (h : pixelAt bytes i = some color) : bytes[4 * i]? = some color.r ∧
      bytes[4 * i + 1]? = some color.g ∧ bytes[4 * i + 2]? = some color.b ∧
      bytes[4 * i + 3]? = some color.a := by
  unfold pixelAt colorAt? at h
  split at h
  · rename_i r g b a hr hg hb ha
    cases h
    exact ⟨hr, hg, hb, ha⟩
  · cases h

theorem bytes_ext {bytes bytes' : Array UInt8} {n : Nat} (size : bytes.size = 4 * n)
    (size' : bytes'.size = 4 * n)
    (same : ∀ i < n, ∃ color, pixelAt bytes i = some color ∧ pixelAt bytes' i = some color) :
    bytes = bytes' := by
  apply Array.ext_getElem?
  intro j
  by_cases inside : j < 4 * n
  · obtain ⟨color, here, here'⟩ := same (j / 4) (by omega)
    obtain ⟨r, g, b, a⟩ := bytes_of_pixelAt here
    obtain ⟨r', g', b', a'⟩ := bytes_of_pixelAt here'
    have place : j = 4 * (j / 4) ∨ j = 4 * (j / 4) + 1 ∨ j = 4 * (j / 4) + 2 ∨ j = 4 * (j / 4) + 3 := by
      omega
    rcases place with first | second | third | fourth
    · rw [first, r, r']
    · rw [second, g, g']
    · rw [third, b, b']
    · rw [fourth, a, a']
  · rw [Array.getElem?_eq_none (by omega), Array.getElem?_eq_none (by omega)]

namespace Snapshot

theorem pixelAt_of_pixel {s : Snapshot} {x y : UInt32} {color : Rgba}
    (h : s.pixel x y = .ok (some color)) :
    pixelAt s.bytes (y.toNat * s.width.toNat + x.toNat) = some color := by
  unfold pixel at h
  split at h
  · cases h
  · split at h
    · cases h
    · split at h
      · cases h
      · rw [pixelAt, Nat.mul_comm 4]
        exact Except.ok.inj h

theorem exists_point {width height : UInt32} {i : Nat} (inside : i < width.toNat * height.toNat) :
    ∃ x y : UInt32, x < width ∧ y < height ∧ y.toNat * width.toNat + x.toNat = i := by
  have wide : 0 < width.toNat := by
    by_contra narrow
    simp [Nat.eq_zero_of_not_pos narrow] at inside
  have left : i % width.toNat < width.toNat := Nat.mod_lt _ wide
  have above : i / width.toNat < height.toNat := by
    rwa [Nat.div_lt_iff_lt_mul wide, Nat.mul_comm]
  have column : (UInt32.ofNat (i % width.toNat)).toNat = i % width.toNat :=
    UInt32.toNat_ofNat_of_lt' (Nat.lt_trans left (UInt32.toNat_lt _))
  have row : (UInt32.ofNat (i / width.toNat)).toNat = i / width.toNat :=
    UInt32.toNat_ofNat_of_lt' (Nat.lt_trans above (UInt32.toNat_lt _))
  refine ⟨.ofNat (i % width.toNat), .ofNat (i / width.toNat), ?_, ?_, ?_⟩
  · rwa [UInt32.lt_iff_toNat_lt, column]
  · rwa [UInt32.lt_iff_toNat_lt, row]
  · rw [column, row, Nat.mul_comm]
    exact Nat.div_add_mod _ _

theorem Pictures.unique {s s' : Snapshot} {b : LiveBuffer} {clear : Rgba} {layers : List Layer}
    (h : s.Pictures b clear layers) (h' : s'.Pictures b clear layers) : s = s' := by
  have bytes : s.bytes = s'.bytes := by
    apply bytes_ext (n := b.shape.width.toNat * b.shape.height.toNat)
    · rw [h.size, Nat.mul_assoc]
    · rw [h'.size, Nat.mul_assoc]
    · intro i inside
      obtain ⟨x, y, here, there, rfl⟩ := exists_point inside
      have seen := pixelAt_of_pixel (h.pixel x y here there)
      have seen' := pixelAt_of_pixel (h'.pixel x y here there)
      rw [h.width] at seen
      rw [h'.width] at seen'
      exact ⟨_, seen, seen'⟩
  cases s
  cases s'
  simp only [mk.injEq]
  exact ⟨h.fingerprint.trans h'.fingerprint.symm, h.width.trans h'.width.symm,
    h.height.trans h'.height.symm, bytes⟩

end Snapshot

namespace Painter

def call (p : Painter) : PaintCall → Painted × Painter
  | .start shape => p.start shape
  | .compose target layers => p.compose target layers

def series : System Painter PaintCall where
  Enabled _ _ := True
  next p c := (p.call c).2

def SetUp (p : Painter) (calls : List PaintCall) : Prop :=
  ∃ before shape after, calls = before ++ .start shape :: after ∧
    ((series.run p before).start shape).1 = .done

variable {p p' : Painter} {target : LiveBuffer} {layers : List Layer}

/-- A frame is refused, or the store for it is too large to be made, or it is drawn into a good store. -/
theorem compose_cases (stocked : p.Stocked) (target : LiveBuffer) (layers : List Layer) :
    (∃ e, p.compose target layers = (.refused e, p)) ∨
    p.compose target layers = (.crashed .capacityOverflow, { p with canvas := none }) ∨
    ∃ (canvas : Canvas) (frame : Snapshot), canvas.Sound ∧ canvas.shape.size ≤ Canvas.largestStore ∧
      p.compose target layers = (.done, { p with canvas := some canvas, lastFrame := frame }) := by
  cases asked : p.accepts target with
  | error e => exact .inl ⟨e, by simp [compose, asked]⟩
  | ok =>
    obtain ⟨_, valid, rgba⟩ := accepted asked
    rcases canvasFor_cases stocked valid rgba with ⟨canvas, made, sound, small, _⟩ | ⟨lost, _⟩
    · obtain ⟨bytes, frame, _, length, _, done⟩ := compose_of_canvas asked made sound layers
      exact .inr (.inr ⟨{ canvas with bytes }, frame, sound.withBytes length, small, done⟩)
    · exact .inr (.inl (by simp only [compose, asked, lost]))

theorem start_cases (shape : BufferShape) (p : Painter) :
    p.start shape = (.done, { p with started := true }) ∨ ∃ e, p.start shape = (.refused e, p) := by
  by_cases rgba : shape.format.isRgba = true
  · exact .inl (by simp [start, rgba])
  · exact .inr ⟨_, by simp [start, rgba]; rfl⟩

theorem call_keeps (stocked : p.Stocked) (c : PaintCall) : (p.call c).2.Stocked ∧
    (p.call c).2.clearColor = p.clearColor ∧ (p.started = true → (p.call c).2.started = true) := by
  cases c with
  | start shape =>
    rcases start_cases shape p with done | ⟨e, refused⟩
    · rw [call, done]
      exact ⟨stocked, rfl, fun _ => rfl⟩
    · rw [call, refused]
      exact ⟨stocked, rfl, id⟩
  | compose target layers =>
    rcases compose_cases stocked target layers with
      ⟨e, refused⟩ | crashed | ⟨canvas, frame, sound, small, done⟩
    · rw [call, refused]
      exact ⟨stocked, rfl, id⟩
    · rw [call, crashed]
      exact ⟨fun c none => (Option.some_ne_none c none.symm).elim, rfl, id⟩
    · rw [call, done]
      refine ⟨fun c some => ?_, rfl, id⟩
      cases some
      exact ⟨sound, small⟩

theorem run_keeps (stocked : p.Stocked) (calls : List PaintCall) : (series.run p calls).Stocked ∧
    (series.run p calls).clearColor = p.clearColor ∧
    (p.started = true → (series.run p calls).started = true) := by
  induction calls generalizing p with
  | nil => exact ⟨stocked, rfl, id⟩
  | cons c calls ih =>
    obtain ⟨stocked', clear, started⟩ := call_keeps stocked c
    obtain ⟨stocked'', clear', started'⟩ := ih stocked'
    exact ⟨stocked'', clear'.trans clear, fun h => started' (started h)⟩

theorem started_of_setUp (stocked : p.Stocked) {calls : List PaintCall} (h : p.SetUp calls) :
    (series.run p calls).started = true := by
  obtain ⟨before, shape, after, rfl, done⟩ := h
  have stocked' := (run_keeps stocked before).1
  rw [System.run_append, System.run_cons]
  apply (run_keeps (call_keeps stocked' (.start shape)).1 after).2.2
  rcases start_cases shape (series.run p before) with started | ⟨e, refused⟩
  · simp only [call, started]
  · rw [refused] at done
    cases done

theorem stocked_new (clear : Rgba) : Stocked { clearColor := clear } := by
  intro c kept
  cases kept

/-- A renderer that was set up at some time draws every buffer that is an addressable one and can be
allocated, and the frame has at every point the colour of the last layer there, or that of the ground. So
it is the frame that any other renderer with this ground draws, whatever either was asked for before. -/
theorem frames_show_only_their_layers (clear : Rgba) {calls : List PaintCall}
    (setUp : SetUp { clearColor := clear } calls) {target : LiveBuffer}
    (rgba : target.shape.format.isRgba = true) (wide : target.shape.width ≤ target.shape.stride)
    (small : target.shape.size ≤ Canvas.largestStore)
    (knows : (series.run { clearColor := clear } calls).Knows target) (layers : List Layer) :
    ∃ p', (series.run { clearColor := clear } calls).compose target layers = (.done, p') ∧
      p'.lastFrame.fingerprint = target.fingerprint ∧ p'.lastFrame.width = target.shape.width ∧
      p'.lastFrame.height = target.shape.height ∧
      p'.lastFrame.bytes.size = 4 * target.shape.width.toNat * target.shape.height.toNat ∧
      (∀ x y : UInt32, x < target.shape.width → y < target.shape.height →
        p'.lastFrame.pixel x y =
          .ok (some (((Layer.top? layers x.toNat y.toNat).map Layer.color).getD clear))) ∧
      ∀ calls', SetUp { clearColor := clear } calls' →
        (series.run { clearColor := clear } calls').Knows target →
        ((series.run { clearColor := clear } calls').compose target layers).2.lastFrame =
          p'.lastFrame := by
  have valid : target.shape.check = .ok () := by
    have addressable : Canvas.largestStore < addressSpace := by decide
    exact (BufferShape.check_eq_ok_iff _).mpr ⟨wide, by omega⟩
  have drawn {calls : List PaintCall} (setUp : SetUp { clearColor := clear } calls)
      (knows : (series.run { clearColor := clear } calls).Knows target) :
      ∃ p', (series.run { clearColor := clear } calls).compose target layers = (.done, p') ∧
        p'.lastFrame.Pictures target clear layers := by
    obtain ⟨stocked, ground, _⟩ := run_keeps (stocked_new clear) calls
    obtain ⟨p', done, _, pictures⟩ := compose_pictures stocked knows
      (started_of_setUp (stocked_new clear) setUp) valid rgba small layers
    rw [ground] at pictures
    exact ⟨p', done, pictures⟩
  obtain ⟨p', done, pictures⟩ := drawn setUp knows
  refine ⟨p', done, pictures.fingerprint, pictures.width, pictures.height, pictures.size,
    pictures.pixel, fun calls' setUp' knows' => ?_⟩
  obtain ⟨q, done', pictures'⟩ := drawn setUp' knows'
  rw [done']
  exact pictures'.unique pictures

/-- The store and its padding are red from an earlier frame, and a buffer with overlapping rows was refused
in between. -/
theorem frames_show_only_their_layers_reused_store :
    let black : Rgba := ⟨0, 0, 0, 255⟩
    let shape : BufferShape := ⟨2, 1, 1, .rgba8888, .none, 3⟩
    let red : Layer := ⟨0, ⟨0, 0, 4294967295, 4294967295⟩, ⟨255, 0, 0, 255⟩⟩
    let green : Layer := ⟨7, ⟨1, 0, 4294967295, 1⟩, ⟨0, 255, 0, 255⟩⟩
    let blue : Layer := ⟨-1, ⟨1, 0, 1, 1⟩, ⟨0, 0, 255, 255⟩⟩
    let calls : List PaintCall := [.start { shape with format := .rgb565 }, .start shape,
      .compose ⟨shape, 1, 1⟩ [red], .compose ⟨{ shape with stride := 1 }, 2, 2⟩ []]
    let p := series.run { clearColor := black } calls
    SetUp { clearColor := black } calls ∧ shape.format.isRgba = true ∧ shape.width ≤ shape.stride ∧
      shape.size ≤ Canvas.largestStore ∧ p.Knows ⟨shape, 1, 1⟩ ∧
      ∃ p', p.compose ⟨shape, 1, 1⟩ [green, blue] = (.done, p') ∧
        p'.lastFrame.pixel 0 0 = .ok (some black) ∧ p'.lastFrame.pixel 1 0 = .ok (some blue.color) := by
  intro black shape red green blue calls p
  have setUp : SetUp { clearColor := black } calls := ⟨[_], shape, [_, _], rfl, rfl⟩
  have small : shape.size ≤ Canvas.largestStore := by decide
  have knows : p.Knows ⟨shape, 1, 1⟩ := by
    have kept : p.canvas.map (·.shape) = some shape := by decide +kernel
    intro c here _
    rw [here] at kept
    exact Option.some.inj kept
  obtain ⟨p', done, _, _, _, _, pixel, _⟩ :=
    frames_show_only_their_layers black setUp rfl (by decide) small knows [green, blue]
  refine ⟨setUp, rfl, by decide, small, knows, p', done, ?_, ?_⟩
  · exact pixel 0 0 (by decide) (by decide)
  · exact pixel 1 0 (by decide) (by decide)

end Painter

end DisplaySurface
