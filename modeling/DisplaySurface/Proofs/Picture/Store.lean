import DisplaySurface.Picture.Painter
import Mathlib

/-!
The store behind a picture. A store that has the size of its buffer has room for every pixel that lies
inside the buffer, and drawing clips to the buffer first. So no access leaves the store, and the only way
for a renderer to crash is to ask for a store that is too large.
-/

namespace DisplaySurface

theorem PixelFormat.bytesPerPixel_of_isRgba {f : PixelFormat} (rgba : f.isRgba = true) :
    f.bytesPerPixel = 4 := by
  cases f <;> first | rfl | cases rgba

section Access

variable {bytes : Array UInt8} {offset : Nat}

theorem putColor_ok (c : Rgba) (room : offset + 4 ≤ bytes.size) :
    ∃ bytes', putColor bytes offset c = .ok bytes' ∧ bytes'.size = bytes.size := by
  refine ⟨_, dif_pos room, ?_⟩
  simp

theorem putRun_ok (c : Rgba) {count : Nat} (room : ∀ k < count, offset + 4 * k + 4 ≤ bytes.size) :
    ∃ bytes', putRun c count offset bytes = .ok bytes' ∧ bytes'.size = bytes.size := by
  induction count generalizing offset bytes with
  | zero => exact ⟨bytes, rfl, rfl⟩
  | succ n ih =>
    obtain ⟨first, put, size⟩ := putColor_ok c (room 0 (by omega))
    have rest : ∀ k < n, offset + 4 + 4 * k + 4 ≤ first.size := by
      intro k hk
      have next := room (k + 1) (by omega)
      omega
    obtain ⟨all, run, size'⟩ := ih rest
    refine ⟨all, ?_, size'.trans size⟩
    rw [putRun, put]
    exact run

theorem putRows_ok (c : Rgba) {count pitch rows : Nat}
    (room : ∀ i < rows, ∀ k < count, offset + i * pitch + 4 * k + 4 ≤ bytes.size) :
    ∃ bytes', putRows c count pitch rows offset bytes = .ok bytes' ∧ bytes'.size = bytes.size := by
  induction rows generalizing offset bytes with
  | zero => exact ⟨bytes, rfl, rfl⟩
  | succ n ih =>
    have here : ∀ k < count, offset + 4 * k + 4 ≤ bytes.size := by
      intro k hk
      simpa using room 0 (by omega) k hk
    obtain ⟨first, run, size⟩ := putRun_ok c here
    have rest : ∀ i < n, ∀ k < count, offset + pitch + i * pitch + 4 * k + 4 ≤ first.size := by
      intro i hi k hk
      have next := room (i + 1) (by omega) k hk
      rw [Nat.succ_mul] at next
      omega
    obtain ⟨all, put, size'⟩ := ih rest
    refine ⟨all, ?_, size'.trans size⟩
    rw [putRows, run]
    exact put

theorem packRows_ok {length pitch rows start : Nat} (packed : Array UInt8)
    (room : ∀ i < rows, start + i * pitch + length ≤ bytes.size) :
    ∃ packed', packRows bytes length pitch rows start packed = .ok packed' := by
  induction rows generalizing start packed with
  | zero => exact ⟨packed, rfl⟩
  | succ n ih =>
    have here : start + length ≤ bytes.size := by simpa using room 0 (by omega)
    rw [packRows, if_pos here]
    refine ih _ fun i hi => ?_
    have next := room (i + 1) (by omega)
    rw [Nat.succ_mul] at next
    omega

end Access

namespace Canvas

structure Sound (c : Canvas) : Prop where
  size : c.bytes.size = c.shape.size
  rgba : c.shape.format.isRgba = true
  wide : c.shape.width.toNat ≤ c.shape.stride.toNat

theorem Sound.withBytes {c : Canvas} (h : c.Sound) {bytes : Array UInt8}
    (same : bytes.size = c.bytes.size) : ({ c with bytes } : Canvas).Sound :=
  ⟨same.trans h.size, h.rgba, h.wide⟩

variable {c : Canvas}

theorem Sound.size_eq (h : c.Sound) : c.bytes.size = c.shape.height.toNat * c.pitch := by
  rw [h.size, BufferShape.size, PixelFormat.bytesPerPixel_of_isRgba h.rgba, pitch, Nat.mul_comm _ 4,
    Nat.mul_comm _ 4]
  ring

theorem Sound.row_room (h : c.Sound) {y : Nat} (inside : y < c.shape.height.toNat) :
    y * c.pitch + 4 * c.shape.width.toNat ≤ c.bytes.size := by
  have wide := h.wide
  have rows : (y + 1) * c.pitch ≤ c.shape.height.toNat * c.pitch := Nat.mul_le_mul_right _ inside
  have pitch : c.pitch = 4 * c.shape.stride.toNat := Nat.mul_comm _ _
  rw [Nat.succ_mul] at rows
  rw [h.size_eq]
  omega

theorem clear_ok (color : Rgba) (c : Canvas) :
    ∃ bytes, c.clear color = .ok { c with bytes } ∧ bytes.size = c.bytes.size := by
  have room : ∀ k < c.bytes.size / 4, 0 + 4 * k + 4 ≤ c.bytes.size := by omega
  obtain ⟨bytes, put, size⟩ := putRun_ok color room
  refine ⟨bytes, ?_, size⟩
  rw [clear, put]

/-- A rectangle is clipped to the buffer, wherever it lies and however large it is. -/
theorem drawLayer_ok (h : c.Sound) (layer : Layer) :
    ∃ bytes, c.drawLayer layer = .ok { c with bytes } ∧ bytes.size = c.bytes.size := by
  have room : ∀ i < layer.area.bottom c.shape.height.toNat - layer.area.y.toNat,
      ∀ k < layer.area.right c.shape.width.toNat - layer.area.x.toNat,
        layer.area.y.toNat * c.pitch + layer.area.x.toNat * 4 + i * c.pitch + 4 * k + 4 ≤
          c.bytes.size := by
    intro i hi k hk
    have below : layer.area.bottom c.shape.height.toNat ≤ c.shape.height.toNat := Nat.min_le_right _ _
    have left : layer.area.right c.shape.width.toNat ≤ c.shape.width.toNat := Nat.min_le_right _ _
    have row := h.row_room (y := layer.area.y.toNat + i) (by omega)
    rw [Nat.add_mul] at row
    omega
  obtain ⟨bytes, put, size⟩ := putRows_ok layer.color room
  refine ⟨bytes, ?_, size⟩
  simp only [drawLayer, put]

theorem drawLayers_ok (h : c.Sound) (layers : List Layer) :
    ∃ bytes, c.drawLayers layers = .ok { c with bytes } ∧ bytes.size = c.bytes.size := by
  induction layers generalizing c with
  | nil => exact ⟨c.bytes, rfl, rfl⟩
  | cons layer rest ih =>
    obtain ⟨bytes, drawn, size⟩ := drawLayer_ok h layer
    obtain ⟨bytes', all, size'⟩ := ih (h.withBytes size)
    refine ⟨bytes', ?_, size'.trans size⟩
    simp only [drawLayers, drawn]
    exact all

theorem draw_ok (h : c.Sound) (color : Rgba) (layers : List Layer) :
    ∃ bytes, c.draw color layers = .ok { c with bytes } ∧ bytes.size = c.bytes.size := by
  obtain ⟨bytes, cleared, size⟩ := clear_ok color c
  obtain ⟨bytes', all, size'⟩ := drawLayers_ok (h.withBytes size) layers
  refine ⟨bytes', ?_, size'.trans size⟩
  simp only [draw, cleared]
  exact all

theorem snapshot_ok (h : c.Sound) : ∃ s, c.snapshot = .ok s := by
  have room : ∀ i < c.shape.height.toNat,
      0 + i * c.pitch + c.shape.width.toNat * 4 ≤ c.bytes.size := by
    intro i hi
    have row := h.row_room hi
    omega
  obtain ⟨packed, pack⟩ := packRows_ok
    (Array.mkEmpty (c.shape.width.toNat * c.shape.height.toNat * 4)) room
  simp only [snapshot, pack]
  exact ⟨_, rfl⟩

theorem fresh_of_fits {target : LiveBuffer} (fits : target.shape.size ≤ largestStore) :
    fresh target = .ok { fingerprint := target.fingerprint, shape := target.shape
                         bytes := Array.replicate target.shape.size 0 } :=
  if_pos fits

theorem fresh_of_large {target : LiveBuffer} (large : largestStore < target.shape.size) :
    fresh target = .error .capacityOverflow :=
  if_neg (Nat.not_le.mpr large)

end Canvas

namespace Painter

/-- The store that a renderer keeps is good, and it is that of the buffer or of an earlier one. -/
def Fits (p : Painter) (target : LiveBuffer) : Prop :=
  ∀ c, p.canvas = some c → c.Sound ∧ c.shape.size ≤ Canvas.largestStore ∧
    c.fingerprint ≤ target.fingerprint ∧ (c.fingerprint = target.fingerprint → c.shape = target.shape)

def Stocked (p : Painter) : Prop :=
  ∀ c, p.canvas = some c → c.Sound ∧ c.shape.size ≤ Canvas.largestStore

/-- A store that is kept under the fingerprint of the buffer has the shape of the buffer. -/
def Knows (p : Painter) (target : LiveBuffer) : Prop :=
  ∀ c, p.canvas = some c → c.fingerprint = target.fingerprint → c.shape = target.shape

theorem Fits.onward {p : Painter} {target next : LiveBuffer} (h : p.Fits target)
    (later : target.fingerprint < next.fingerprint) : p.Fits next := by
  intro c kept
  obtain ⟨sound, small, past, _⟩ := h c kept
  exact ⟨sound, small, by omega, by omega⟩

theorem Fits.stocked {p : Painter} {target : LiveBuffer} (h : p.Fits target) : p.Stocked := by
  intro c kept
  obtain ⟨sound, small, _⟩ := h c kept
  exact ⟨sound, small⟩

theorem Fits.knows {p : Painter} {target : LiveBuffer} (h : p.Fits target) : p.Knows target :=
  fun c kept => (h c kept).2.2.2

variable {p : Painter} {target : LiveBuffer}

theorem accepted (h : p.accepts target = .ok ()) : p.started = true ∧ target.shape.check = .ok () ∧
    target.shape.format.isRgba = true := by
  unfold accepts at h
  cases started : p.started with
  | false => simp [started] at h
  | true =>
    cases rgba : target.shape.format.isRgba with
    | false => simp [started, rgba] at h
    | true =>
      cases valid : target.shape.check with
      | error => simp [started, rgba, valid] at h
      | ok => exact ⟨rfl, rfl, rfl⟩

/-- A store can be had unless a new one is needed and is too large. -/
theorem canvasFor_cases (stocked : p.Stocked) (valid : target.shape.check = .ok ())
    (rgba : target.shape.format.isRgba = true) :
    (∃ canvas, p.canvasFor target = .ok canvas ∧ canvas.Sound ∧
      canvas.shape.size ≤ Canvas.largestStore ∧ canvas.fingerprint = target.fingerprint ∧
      (canvas.shape = target.shape ∨ p.canvas = some canvas)) ∨
    p.canvasFor target = .error .capacityOverflow ∧ Canvas.largestStore < target.shape.size := by
  have made : (∃ canvas, Canvas.fresh target = .ok canvas ∧ canvas.Sound ∧
      canvas.shape.size ≤ Canvas.largestStore ∧ canvas.fingerprint = target.fingerprint ∧
      (canvas.shape = target.shape ∨ p.canvas = some canvas)) ∨
      Canvas.fresh target = .error .capacityOverflow ∧ Canvas.largestStore < target.shape.size := by
    by_cases small : target.shape.size ≤ Canvas.largestStore
    · have wide := ((BufferShape.check_eq_ok_iff _).mp valid).1
      exact .inl ⟨_, Canvas.fresh_of_fits small, ⟨by simp, rgba, wide⟩, small, rfl, .inl rfl⟩
    · exact .inr ⟨Canvas.fresh_of_large (Nat.not_le.mp small), Nat.not_le.mp small⟩
  cases kept : p.canvas with
  | none => simpa [canvasFor, kept] using made
  | some canvas =>
    obtain ⟨sound, small⟩ := stocked canvas kept
    by_cases same : canvas.fingerprint = target.fingerprint
    · exact .inl ⟨canvas, by simp [canvasFor, kept, same], sound, small, same, .inr rfl⟩
    · simpa [canvasFor, kept, same] using made

theorem compose_of_canvas (accepts : p.accepts target = .ok ()) {canvas : Canvas}
    (made : p.canvasFor target = .ok canvas) (sound : canvas.Sound) (layers : List Layer) :
    ∃ (bytes : Array UInt8) (frame : Snapshot),
      canvas.draw p.clearColor layers = .ok { canvas with bytes } ∧ bytes.size = canvas.bytes.size ∧
      ({ canvas with bytes } : Canvas).snapshot = .ok frame ∧
      p.compose target layers =
        (.done, { p with canvas := some { canvas with bytes }, lastFrame := frame }) := by
  obtain ⟨bytes, drawn, length⟩ := Canvas.draw_ok sound p.clearColor layers
  obtain ⟨frame, taken⟩ := Canvas.snapshot_ok (sound.withBytes length)
  refine ⟨bytes, frame, drawn, length, taken, ?_⟩
  simp only [compose, accepts, made, drawn, taken]

section Accepted

variable (started : p.started = true) (valid : target.shape.check = .ok ())
  (rgba : target.shape.format.isRgba = true)

include started valid rgba

theorem accepts_ok : p.accepts target = .ok () := by
  simp [accepts, started, rgba, valid]

theorem compose_eq (stocked : p.Stocked) (knows : p.Knows target)
    (small : target.shape.size ≤ Canvas.largestStore)
    (layers : List Layer) : ∃ (canvas : Canvas) (bytes : Array UInt8) (frame : Snapshot),
      canvas.Sound ∧ canvas.fingerprint = target.fingerprint ∧ canvas.shape = target.shape ∧
      canvas.draw p.clearColor layers = .ok { canvas with bytes } ∧ bytes.size = canvas.bytes.size ∧
      ({ canvas with bytes } : Canvas).snapshot = .ok frame ∧
      p.compose target layers =
        (.done, { p with canvas := some { canvas with bytes }, lastFrame := frame }) := by
  rcases canvasFor_cases stocked valid rgba with ⟨canvas, made, sound, _, same, shape⟩ | ⟨_, large⟩
  · obtain ⟨bytes, frame, drawn, length, taken, done⟩ :=
      compose_of_canvas (accepts_ok started valid rgba) made sound layers
    have shape : canvas.shape = target.shape := shape.elim id fun kept => knows canvas kept same
    exact ⟨canvas, bytes, frame, sound, same, shape, drawn, length, taken, done⟩
  · omega

theorem compose_done (fits : p.Fits target) (small : target.shape.size ≤ Canvas.largestStore)
    (layers : List Layer) :
    ∃ p', p.compose target layers = (.done, p') ∧ p'.started = true ∧ p'.Fits target := by
  obtain ⟨canvas, bytes, frame, sound, same, shape, _, length, _, done⟩ :=
    compose_eq started valid rgba fits.stocked fits.knows small layers
  refine ⟨_, done, started, ?_⟩
  rintro _ ⟨⟩
  exact ⟨sound.withBytes length, shape ▸ small, same.le, fun _ => shape⟩

theorem compose_crashed (fits : p.Fits target) (large : Canvas.largestStore < target.shape.size)
    (layers : List Layer) :
    p.compose target layers = (.crashed .capacityOverflow, { p with canvas := none }) := by
  rcases canvasFor_cases fits.stocked valid rgba with ⟨canvas, _, _, small, same, shape⟩ | ⟨lost, _⟩
  · have shape : canvas.shape = target.shape := shape.elim id fun kept => fits.knows canvas kept same
    rw [shape] at small
    omega
  · simp only [compose, accepts_ok started valid rgba, lost]

end Accepted

theorem compose_refused (started : p.started = true) (other : target.shape.format.isRgba = false)
    (layers : List Layer) :
    p.compose target layers = (.refused (.unsupported target.shape.format), p) := by
  simp [compose, accepts, started, other]

end Painter

/-- How a started renderer answers to a frame for a buffer of this shape, if the shape is an accepted
one. -/
def BufferShape.answer (s : BufferShape) : Reply :=
  if s.format.isRgba then if s.size ≤ Canvas.largestStore then .done else .crashed
  else .failed (PaintError.unsupported s.format).message

namespace Painter

variable {p p' : Painter} {reply : Reply}

theorem start_reply {shape : BufferShape} (h : Renderer.start shape p = (reply, p')) :
    reply = .done ∧ p' = { p with started := true } ∨ (∃ reason, reply = .failed reason) ∧ p' = p := by
  cases rgba : shape.format.isRgba with
  | true =>
    simp only [Renderer.start, start, rgba, if_true] at h
    cases h
    exact .inl ⟨rfl, rfl⟩
  | false =>
    simp only [Renderer.start, start, rgba, Bool.false_eq_true, if_false] at h
    cases h
    exact .inr ⟨⟨_, rfl⟩, rfl⟩

theorem compose_reply {target : LiveBuffer} {layers : List Layer} (started : p.started = true)
    (fits : p.Fits target) (valid : target.shape.check = .ok ())
    (h : Renderer.compose target layers p = (reply, p')) :
    reply = target.shape.answer ∧ p'.started = true ∧ p'.Fits target := by
  cases rgba : target.shape.format.isRgba with
  | false =>
    simp only [Renderer.compose, compose_refused started rgba layers] at h
    cases h
    exact ⟨by simp [BufferShape.answer, rgba, Painted.reply], started, fits⟩
  | true =>
    by_cases small : target.shape.size ≤ Canvas.largestStore
    · obtain ⟨after, done, started', fits'⟩ :=
        compose_done started valid rgba fits small layers
      simp only [Renderer.compose, done] at h
      cases h
      exact ⟨by simp [BufferShape.answer, rgba, small, Painted.reply], started', fits'⟩
    · simp only [Renderer.compose,
        compose_crashed started valid rgba fits (Nat.not_le.mp small) layers] at h
      cases h
      refine ⟨by simp [BufferShape.answer, rgba, small, Painted.reply], started, ?_⟩
      simp [Fits]

end Painter

end DisplaySurface
