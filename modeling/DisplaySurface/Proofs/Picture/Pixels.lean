import DisplaySurface.Proofs.Picture.Stacking
import DisplaySurface.Proofs.Picture.Store

/-!
The colours in a store. Bytes are written and copied by the pixel, at offsets that four divides, so a store
is read as pixels with numbers. A row is as long as the stride and a layer is clipped to the width, so
what is drawn in a row never comes into the next one.
-/

namespace DisplaySurface

/-- The pixel of this number, counted from the start of the store. -/
def pixelAt (bytes : Array UInt8) (i : Nat) : Option Rgba :=
  colorAt? bytes (4 * i)

theorem pixelAt_congr {bytes bytes' : Array UInt8} {i j : Nat}
    (same : ∀ n < 4, bytes[4 * i + n]? = bytes'[4 * j + n]?) : pixelAt bytes i = pixelAt bytes' j := by
  have first : bytes[4 * i]? = bytes'[4 * j]? := same 0 (by omega)
  simp only [pixelAt, colorAt?, first, same 1 (by omega), same 2 (by omega), same 3 (by omega)]

/-- The pixels with these numbers get a colour, and all others stay. -/
def Covers (color : Rgba) (S : Nat → Prop) (bytes bytes' : Array UInt8) : Prop :=
  ∀ i, (S i → pixelAt bytes' i = some color) ∧ (¬ S i → pixelAt bytes' i = pixelAt bytes i)

namespace Covers

variable {color : Rgba} {S T U : Nat → Prop} {bytes bytes' bytes'' : Array UInt8}

theorem none (empty : ∀ i, ¬ S i) : Covers color S bytes bytes :=
  fun i => ⟨fun here => absurd here (empty i), fun _ => rfl⟩

theorem trans (first : Covers color S bytes bytes') (second : Covers color T bytes' bytes'')
    (both : ∀ i, U i ↔ S i ∨ T i) : Covers color U bytes bytes'' := by
  intro i
  rw [both]
  by_cases later : T i
  · exact ⟨fun _ => (second i).1 later, fun outside => absurd (.inr later) outside⟩
  · refine ⟨fun here => ?_, fun outside => ?_⟩
    · rw [(second i).2 later]
      exact (first i).1 (here.resolve_right later)
    · rw [(second i).2 later]
      exact (first i).2 fun early => outside (.inl early)

end Covers

section Access

variable {color : Rgba} {bytes bytes' : Array UInt8} {count k : Nat}

theorem covers_of_putColor (put : putColor bytes (4 * k) color = .ok bytes') :
    Covers color (· = k) bytes bytes' := by
  unfold putColor at put
  split at put
  · cases put
    rename_i room
    intro i
    constructor
    · rintro rfl
      simp [pixelAt, colorAt?]
    · intro other
      refine pixelAt_congr fun n byte => ?_
      simp (disch := omega) only [Array.getElem?_set_ne]
  · cases put

theorem covers_of_putRun (put : putRun color count (4 * k) bytes = .ok bytes') :
    Covers color (fun i => k ≤ i ∧ i < k + count) bytes bytes' := by
  induction count generalizing k bytes with
  | zero =>
    cases put
    exact .none fun i => by omega
  | succ n ih =>
    cases first : putColor bytes (4 * k) color with
    | error => simp [putRun, first] at put
    | ok next =>
      rw [putRun, first] at put
      have rest := ih (k := k + 1) (by simpa only [Nat.mul_add] using put)
      exact (covers_of_putColor first).trans rest fun i => by omega

theorem covers_of_putRows {stride rows : Nat}
    (put : putRows color count (4 * stride) rows (4 * k) bytes = .ok bytes') :
    Covers color (fun i => ∃ r < rows, k + r * stride ≤ i ∧ i < k + r * stride + count) bytes bytes' := by
  induction rows generalizing k bytes with
  | zero =>
    cases put
    exact .none fun i => by simp
  | succ n ih =>
    cases first : putRun color count (4 * k) bytes with
    | error => simp [putRows, first] at put
    | ok next =>
      rw [putRows, first] at put
      have rest := ih (k := k + stride) (by simpa only [Nat.mul_add] using put)
      refine (covers_of_putRun first).trans rest fun i => ?_
      rw [Nat.exists_lt_succ_left]
      simp only [Nat.zero_mul, Nat.add_zero, Nat.succ_mul, ← Nat.add_assoc, Nat.add_right_comm k stride]

end Access

section Copying

variable {bytes packed packed' : Array UInt8} {i k p width : Nat}

theorem pixelAt_append_left (size : packed.size = 4 * p) (here : i < p) :
    pixelAt (packed ++ bytes) i = pixelAt packed i :=
  pixelAt_congr fun n byte => Array.getElem?_append_left (by omega)

theorem pixelAt_append_right (size : packed.size = 4 * p) :
    pixelAt (packed ++ bytes) (p + i) = pixelAt bytes i := by
  refine pixelAt_congr fun n byte => ?_
  rw [Array.getElem?_append_right (by omega)]
  congr 1
  omega

theorem pixelAt_extract (room : 4 * k + 4 * width ≤ bytes.size) (here : i < width) :
    pixelAt (bytes.extract (4 * k) (4 * k + 4 * width)) i = pixelAt bytes (k + i) := by
  refine pixelAt_congr fun n byte => ?_
  rw [Array.getElem?_extract, if_pos (by omega), Nat.mul_add, Nat.add_assoc]

theorem pixelAt_packRows {stride rows : Nat} (size : packed.size = 4 * p)
    (pack : packRows bytes (4 * width) (4 * stride) rows (4 * k) packed = .ok packed') :
    packed'.size = 4 * (p + rows * width) ∧ (∀ i < p, pixelAt packed' i = pixelAt packed i) ∧
      ∀ r < rows, ∀ i < width,
        pixelAt packed' (p + r * width + i) = pixelAt bytes (k + r * stride + i) := by
  induction rows generalizing k p packed with
  | zero =>
    cases pack
    simp [size]
  | succ n ih =>
    rw [packRows] at pack
    split at pack
    · rename_i room
      have row : (packed ++ bytes.extract (4 * k) (4 * k + 4 * width)).size = 4 * (p + width) := by
        simp only [Array.size_append, Array.size_extract]
        omega
      obtain ⟨size', before, rest⟩ := ih (k := k + stride) row (by simpa only [Nat.mul_add] using pack)
      refine ⟨?_, fun i here => ?_, fun r hr i here => ?_⟩
      · rw [size', Nat.succ_mul]
        ring
      · rw [before i (by omega), pixelAt_append_left size here]
      · cases r with
        | zero =>
          simp only [Nat.zero_mul, Nat.add_zero]
          rw [before (p + i) (by omega), pixelAt_append_right size, pixelAt_extract room here]
        | succ r =>
          have later := rest r (by omega) i here
          simpa only [Nat.succ_mul, ← Nat.add_assoc, Nat.add_right_comm _ width,
            Nat.add_right_comm k stride] using later
    · cases pack

end Copying

theorem row_unique {stride x y u v : Nat} (left : x < stride) (right : u < stride)
    (same : y * stride + x = v * stride + u) : y = v ∧ x = u := by
  have row {n m : Nat} (inside : m < stride) : (n * stride + m) / stride = n := by
    rw [Nat.add_comm, Nat.add_mul_div_right _ _ (Nat.zero_lt_of_lt inside), Nat.div_eq_of_lt inside,
      Nat.zero_add]
  have rows : y = v := by rw [← row (n := y) left, same, row right]
  subst rows
  exact ⟨rfl, Nat.add_left_cancel same⟩

/-- Where a point lies in a rectangle, one of the runs that are written for the rectangle has the point. -/
theorem Rect.contains_iff_run (rect : Rect) {width height stride x y : Nat} (wide : width ≤ stride)
    (here : x < width) (inside : y < height) : rect.contains x y = true ↔
      ∃ r < rect.bottom height - rect.y.toNat,
        rect.y.toNat * stride + rect.x.toNat + r * stride ≤ y * stride + x ∧
          y * stride + x < rect.y.toNat * stride + rect.x.toNat + r * stride +
            (rect.right width - rect.x.toNat) := by
  have left : rect.right width ≤ width := Nat.min_le_right _ _
  simp only [contains, decide_eq_true_eq]
  constructor
  · rintro ⟨_, _, above, _⟩
    obtain ⟨r, rfl⟩ := Nat.exists_eq_add_of_le above
    refine ⟨r, ?_, ?_⟩
    · simp only [bottom]
      omega
    · rw [Nat.add_mul]
      simp only [right]
      omega
  · rintro ⟨r, low, start, stop⟩
    obtain ⟨u, place⟩ := Nat.exists_eq_add_of_le start
    have same : y * stride + x = (rect.y.toNat + r) * stride + (rect.x.toNat + u) := by
      rw [place, Nat.add_mul]
      omega
    obtain ⟨rfl, rfl⟩ := row_unique (by omega) (by omega) same
    simp only [bottom] at low
    simp only [right] at stop
    omega

theorem Snapshot.pixel_of_inside {s : Snapshot} {x y : UInt32} (here : x < s.width)
    (inside : y < s.height) (counted : s.offset x y + 4 < addressSpace) :
    s.pixel x y = .ok (pixelAt s.bytes (y.toNat * s.width.toNat + x.toNat)) := by
  have within : ¬ (s.width ≤ x ∨ s.height ≤ y) := by
    simp [UInt32.not_le.mpr here, UInt32.not_le.mpr inside]
  rw [pixel, if_neg within, if_neg (by omega), if_neg (by omega), pixelAt, offset, Nat.mul_comm 4]

namespace Canvas

def pixel? (c : Canvas) (x y : Nat) : Option Rgba :=
  pixelAt c.bytes (y * c.shape.stride.toNat + x)

variable {c c' : Canvas} {color : Rgba} {x y : Nat}

theorem pixel?_clear (h : c.Sound) (cleared : c.clear color = .ok c') (here : x < c.shape.width.toNat)
    (inside : y < c.shape.height.toNat) : c'.pixel? x y = some color := by
  unfold clear at cleared
  cases put : putRun color (c.bytes.size / 4) 0 c.bytes with
  | error => simp [put] at cleared
  | ok bytes =>
    rw [put] at cleared
    cases cleared
    have room := h.row_room inside
    have pitch : y * c.pitch = 4 * (y * c.shape.stride.toNat) := by
      rw [Canvas.pitch]
      ring
    refine (covers_of_putRun (k := 0) put _).1 ?_
    simp only [Nat.zero_le, Nat.zero_add, true_and]
    omega

theorem pixel?_drawLayer (h : c.Sound) {layer : Layer} (drawn : c.drawLayer layer = .ok c')
    (here : x < c.shape.width.toNat) (inside : y < c.shape.height.toNat) : c'.pixel? x y =
      if layer.area.contains x y then some layer.color else c.pixel? x y := by
  have start : layer.area.y.toNat * c.pitch + layer.area.x.toNat * 4 =
      4 * (layer.area.y.toNat * c.shape.stride.toNat + layer.area.x.toNat) := by
    rw [pitch]
    ring
  have pitch : c.pitch = 4 * c.shape.stride.toNat := Nat.mul_comm _ _
  simp only [drawLayer, start] at drawn
  rw [pitch] at drawn
  split at drawn
  · rename_i bytes put
    cases drawn
    have covers := covers_of_putRows put (y * c.shape.stride.toNat + x)
    have run := layer.area.contains_iff_run h.wide here inside
    split
    · exact covers.1 (run.mp ‹_›)
    · exact covers.2 fun met => ‹¬ _› (run.mpr met)
  · cases drawn

/-- The last of the layers at a point is seen there, and without any the colour from before. -/
theorem pixel?_drawLayers (h : c.Sound) {layers : List Layer} (drawn : c.drawLayers layers = .ok c')
    (here : x < c.shape.width.toNat) (inside : y < c.shape.height.toNat) : c'.pixel? x y =
      ((Layer.top? layers x y).map Layer.color).or (c.pixel? x y) := by
  induction layers generalizing c with
  | nil =>
    cases drawn
    rfl
  | cons layer rest ih =>
    obtain ⟨bytes, first, size⟩ := drawLayer_ok h layer
    simp only [drawLayers, first] at drawn
    rw [ih (h.withBytes size) drawn here inside, pixel?_drawLayer h first here inside,
      Layer.top?_cons]
    split <;> cases Layer.top? rest x y <;> rfl

theorem pixel?_draw (h : c.Sound) {layers : List Layer} (drawn : c.draw color layers = .ok c')
    (here : x < c.shape.width.toNat) (inside : y < c.shape.height.toNat) : c'.pixel? x y =
      some (((Layer.top? layers x y).map Layer.color).getD color) := by
  obtain ⟨bytes, cleared, size⟩ := clear_ok color c
  simp only [draw, cleared] at drawn
  rw [pixel?_drawLayers (h.withBytes size) drawn here inside, pixel?_clear h cleared here inside]
  cases Layer.top? layers x y <;> rfl

theorem pixel_snapshot (h : c.Sound) (small : c.shape.size ≤ largestStore) {s : Snapshot}
    (taken : c.snapshot = .ok s) : s.fingerprint = c.fingerprint ∧ s.width = c.shape.width ∧
      s.height = c.shape.height ∧
      s.bytes.size = 4 * c.shape.width.toNat * c.shape.height.toNat ∧
      ∀ x y : UInt32, x < c.shape.width → y < c.shape.height →
        s.pixel x y = .ok (c.pixel? x.toNat y.toNat) := by
  have length : c.shape.width.toNat * 4 = 4 * c.shape.width.toNat := Nat.mul_comm _ _
  have pitch : c.pitch = 4 * c.shape.stride.toNat := Nat.mul_comm _ _
  simp only [snapshot, length, pitch] at taken
  split at taken
  · rename_i bytes pack
    cases taken
    obtain ⟨size, _, rows⟩ := pixelAt_packRows (p := 0) (k := 0) (by simp) pack
    have size : bytes.size = 4 * c.shape.width.toNat * c.shape.height.toNat := by
      rw [size]
      ring
    refine ⟨rfl, rfl, rfl, size, fun x y here inside => ?_⟩
    have left := UInt32.lt_iff_toNat_lt.mp here
    have above := UInt32.lt_iff_toNat_lt.mp inside
    -- The offset is that of the last of its four bytes at most, so it can be counted.
    have counted : (y.toNat * c.shape.width.toNat + x.toNat) * 4 + 4 < addressSpace := by
      have room := h.row_room above
      have narrow := Nat.mul_le_mul_left y.toNat h.wide
      have wrapped : y.toNat * c.pitch = 4 * (y.toNat * c.shape.stride.toNat) := by
        rw [pitch]
        ring
      have addressable : largestStore < addressSpace := by decide
      rw [h.size] at room
      omega
    have row := rows y.toNat above x.toNat left
    simp only [Nat.zero_add] at row
    exact Eq.trans (Snapshot.pixel_of_inside here inside counted) (congrArg Except.ok row)
  · cases taken

end Canvas

/-- The frame is as large as this buffer without its padding, and every point has the colour of the last
layer there. -/
structure Snapshot.Pictures (s : Snapshot) (b : LiveBuffer) (clear : Rgba) (layers : List Layer) :
    Prop where
  fingerprint : s.fingerprint = b.fingerprint
  width : s.width = b.shape.width
  height : s.height = b.shape.height
  size : s.bytes.size = 4 * b.shape.width.toNat * b.shape.height.toNat
  pixel : ∀ x y : UInt32, x < b.shape.width → y < b.shape.height →
    s.pixel x y = .ok (some (((Layer.top? layers x.toNat y.toNat).map Layer.color).getD clear))

/-- The frame was made for this buffer, and every point shows these layers on a ground of one colour. -/
structure Snapshot.Depicts (s : Snapshot) (b : LiveBuffer) (clear : Rgba) (layers : List Layer) :
    Prop where
  fingerprint : s.fingerprint = b.fingerprint
  width : s.width = b.shape.width
  height : s.height = b.shape.height
  shows : ∀ x y : UInt32, x < b.shape.width → y < b.shape.height →
    ∃ color, s.pixel x y = .ok (some color) ∧
      ∀ other, Layer.Shows clear layers x.toNat y.toNat other ↔ other = color

namespace Snapshot.Depicts

variable {s s' : Snapshot} {b : LiveBuffer} {clear : Rgba} {layers layers' : List Layer}

theorem rearranged (h : s.Depicts b clear layers) (other : Layer.Rearranged layers layers') :
    s.Depicts b clear layers' where
  fingerprint := h.fingerprint
  width := h.width
  height := h.height
  shows := by simpa only [other.shows_iff] using h.shows

theorem pixel_eq (h : s.Depicts b clear layers) (h' : s'.Depicts b clear layers) (x y : UInt32) :
    s'.pixel x y = s.pixel x y := by
  by_cases within : x < b.shape.width ∧ y < b.shape.height
  · obtain ⟨color, here, only⟩ := h.shows x y within.1 within.2
    obtain ⟨color', here', only'⟩ := h'.shows x y within.1 within.2
    have same : color' = color := (only color').mp ((only' color').mpr rfl)
    rw [here, here', same]
  · have outside : b.shape.width ≤ x ∨ b.shape.height ≤ y := by
      simpa only [not_and_or, UInt32.not_lt] using within
    simp [pixel, h.width, h.height, h'.width, h'.height, outside]

end Snapshot.Depicts

namespace Painter

variable {p p' : Painter} {target : LiveBuffer} {layers : List Layer}

theorem of_compose_done (fits : p.Fits target) (composed : p.compose target layers = (.done, p')) :
    p.started = true ∧ target.shape.check = .ok () ∧ target.shape.format.isRgba = true ∧
      target.shape.size ≤ Canvas.largestStore := by
  cases asked : p.accepts target with
  | error => simp [compose, asked] at composed
  | ok =>
    obtain ⟨started, valid, rgba⟩ := accepted asked
    refine ⟨started, valid, rgba, Nat.le_of_not_lt fun large => ?_⟩
    simp [compose_crashed started valid rgba fits large] at composed

theorem compose_pictures (stocked : p.Stocked) (knows : p.Knows target) (started : p.started = true)
    (valid : target.shape.check = .ok ()) (rgba : target.shape.format.isRgba = true)
    (small : target.shape.size ≤ Canvas.largestStore) (layers : List Layer) :
    ∃ p', p.compose target layers = (.done, p') ∧ p'.clearColor = p.clearColor ∧
      p'.lastFrame.Pictures target p.clearColor layers := by
  obtain ⟨canvas, bytes, frame, sound, same, shape, drawn, length, taken, done⟩ :=
    compose_eq started valid rgba stocked knows small layers
  obtain ⟨fingerprint, width, height, size, pixel⟩ :=
    Canvas.pixel_snapshot (sound.withBytes length) (shape ▸ small) taken
  refine ⟨_, done, rfl, fingerprint.trans same, width.trans (congrArg _ shape),
    height.trans (congrArg _ shape), shape ▸ size, fun x y here inside => ?_⟩
  rw [← shape] at here inside
  rw [pixel x y here inside, Canvas.pixel?_draw sound drawn (UInt32.lt_iff_toNat_lt.mp here)
    (UInt32.lt_iff_toNat_lt.mp inside)]

theorem compose_depicts (fits : p.Fits target)
    (composed : p.compose target (Layer.inDrawingOrder layers) = (.done, p')) :
    p'.clearColor = p.clearColor ∧ p'.lastFrame.Depicts target p.clearColor layers := by
  obtain ⟨started, valid, rgba, small⟩ := of_compose_done fits composed
  obtain ⟨q, done, clear, pictures⟩ := compose_pictures fits.stocked fits.knows started valid rgba small
    (Layer.inDrawingOrder layers)
  rw [done] at composed
  cases composed
  refine ⟨clear, pictures.fingerprint, pictures.width, pictures.height, fun x y here inside => ?_⟩
  exact ⟨_, pictures.pixel x y here inside, fun other => Layer.shows_iff⟩

end Painter

end DisplaySurface
