import DisplaySurface.Proofs.Picture.Redrawing

/-!
Drawing in words of 64 bits. Here every product and every sum that an offset is made of has to fit into a
word, every slice has to lie inside the store, and the copy of a frame has to be one that can be allocated.
In all states that a renderer comes to this is the same as drawing without these checks. So none of them
ever fails, and the only crash left is that of asking for a store that is too large.
-/

namespace DisplaySurface

def wordProduct (a b : Nat) : Except Crash Nat :=
  if a * b < addressSpace then .ok (a * b) else .error .multiplyOverflow

def wordSum (a b : Nat) : Except Crash Nat :=
  if a + b < addressSpace then .ok (a + b) else .error .addOverflow

def sliceOf (bytes : Array UInt8) (start stop : Nat) : Except Crash (Array UInt8) :=
  if start ≤ stop ∧ stop ≤ bytes.size then .ok (bytes.extract start stop)
  else .error (.outOfRange stop bytes.size)

def reserve (capacity : Nat) : Except Crash (Array UInt8) :=
  if capacity ≤ Canvas.largestStore then .ok (Array.mkEmpty capacity) else .error .capacityOverflow

def putPixel (color : Rgba) (row : Nat) (bytes : Array UInt8) (x : Nat) :
    Except Crash (Array UInt8) := do
  let offset ← wordSum row (← wordProduct x 4)
  let _ ← wordSum offset 4
  putColor bytes offset color

namespace Canvas

def rowStart (c : Canvas) (y : Nat) : Except Crash Nat := do
  wordProduct (← wordProduct y c.shape.stride.toNat) 4

def countedRow (c : Canvas) (color : Rgba) (x count : Nat) (bytes : Array UInt8) (y : Nat) :
    Except Crash (Array UInt8) := do
  (List.range' x count).foldlM (putPixel color (← c.rowStart y)) bytes

def countedLayer (c : Canvas) (layer : Layer) : Except Crash Canvas := do
  let x := layer.area.x.toNat
  let y := layer.area.y.toNat
  let bytes ← (List.range' y (layer.area.bottom c.shape.height.toNat - y)).foldlM
    (c.countedRow layer.color x (layer.area.right c.shape.width.toNat - x)) c.bytes
  return { c with bytes }

def countedDraw (color : Rgba) (layers : List Layer) (c : Canvas) : Except Crash Canvas := do
  layers.foldlM countedLayer (← c.clear color)

def countedCopy (c : Canvas) (packed : Array UInt8) (y : Nat) : Except Crash (Array UInt8) := do
  let row ← c.rowStart y
  let stop ← wordSum row (← wordProduct c.shape.width.toNat 4)
  return packed ++ (← sliceOf c.bytes row stop)

def countedSnapshot (c : Canvas) : Except Crash Snapshot := do
  let capacity ← wordProduct (← wordProduct c.shape.width.toNat c.shape.height.toNat) 4
  let bytes ← (List.range' 0 c.shape.height.toNat).foldlM c.countedCopy (← reserve capacity)
  return { fingerprint := c.fingerprint, width := c.shape.width, height := c.shape.height, bytes }

end Canvas

theorem ok_bind {α β : Type} (a : α) (f : α → Except Crash β) : (Except.ok a >>= f) = f a := rfl

theorem wordProduct_ok {a b : Nat} (fits : a * b < addressSpace) : wordProduct a b = .ok (a * b) :=
  if_pos fits

theorem wordSum_ok {a b : Nat} (fits : a + b < addressSpace) : wordSum a b = .ok (a + b) :=
  if_pos fits

section Access

variable {color : Rgba} {bytes : Array UInt8} {row x count : Nat}

theorem putPixel_eq (countable : bytes.size < addressSpace) (room : row + 4 * x + 4 ≤ bytes.size) :
    putPixel color row bytes x = putColor bytes (row + x * 4) color := by
  simp only [putPixel]
  rw [wordProduct_ok (by omega), ok_bind, wordSum_ok (by omega), ok_bind, wordSum_ok (by omega), ok_bind]

theorem putPixels_eq (countable : bytes.size < addressSpace)
    (room : ∀ k < count, row + 4 * (x + k) + 4 ≤ bytes.size) :
    (List.range' x count).foldlM (putPixel color row) bytes =
      putRun color count (row + x * 4) bytes := by
  induction count generalizing x bytes with
  | zero => rfl
  | succ n ih =>
    have first := room 0 (by omega)
    have here : row + x * 4 + 4 ≤ bytes.size := by omega
    obtain ⟨next, put, size⟩ := putColor_ok color here
    have rest : ∀ k < n, row + 4 * (x + 1 + k) + 4 ≤ next.size := by
      intro k hk
      have later := room (k + 1) (by omega)
      omega
    rw [List.range'_succ, List.foldlM_cons, putPixel_eq countable (by omega), put, ok_bind,
      ih (by omega) rest, putRun, put, Nat.succ_mul, ← Nat.add_assoc]

end Access

namespace Canvas

section Stores

variable {c : Canvas} (sound : c.Sound) (small : c.shape.size ≤ largestStore)

include sound small

theorem countable : c.bytes.size < addressSpace := by
  have addressable : largestStore < addressSpace := by decide
  rw [sound.size]
  omega

theorem rowStart_eq {y : Nat} (inside : y < c.shape.height.toNat) : c.rowStart y = .ok (y * c.pitch) := by
  have room := sound.row_room inside
  have fits := countable sound small
  have pitch : y * c.pitch = y * c.shape.stride.toNat * 4 := (Nat.mul_assoc _ _ _).symm
  rw [rowStart, wordProduct_ok (by omega), ok_bind, wordProduct_ok (by omega), pitch]

theorem countedRow_eq {color : Rgba} {x count y : Nat} {bytes : Array UInt8}
    (same : bytes.size = c.bytes.size) (across : ∀ k < count, x + k < c.shape.width.toNat)
    (inside : y < c.shape.height.toNat) :
    c.countedRow color x count bytes y = putRun color count (y * c.pitch + x * 4) bytes := by
  have fits := countable sound small
  have room := sound.row_room inside
  rw [countedRow, rowStart_eq sound small inside, ok_bind]
  refine putPixels_eq (by omega) fun k hk => ?_
  have left := across k hk
  omega

theorem countedRows_eq {color : Rgba} {x count y rows : Nat} {bytes : Array UInt8}
    (same : bytes.size = c.bytes.size) (across : ∀ k < count, x + k < c.shape.width.toNat)
    (down : ∀ k < rows, y + k < c.shape.height.toNat) :
    (List.range' y rows).foldlM (c.countedRow color x count) bytes =
      putRows color count c.pitch rows (y * c.pitch + x * 4) bytes := by
  induction rows generalizing y bytes with
  | zero => rfl
  | succ n ih =>
    have inside : y < c.shape.height.toNat := down 0 (by omega)
    have room : ∀ k < count, y * c.pitch + x * 4 + 4 * k + 4 ≤ bytes.size := by
      intro k hk
      have left := across k hk
      have row := sound.row_room inside
      omega
    obtain ⟨next, put, size⟩ := putRun_ok color room
    have rest : ∀ k < n, y + 1 + k < c.shape.height.toNat := by
      intro k hk
      have later := down (k + 1) (by omega)
      omega
    have onward : (y + 1) * c.pitch + x * 4 = y * c.pitch + x * 4 + c.pitch := by
      rw [Nat.succ_mul]
      omega
    rw [List.range'_succ, List.foldlM_cons, countedRow_eq sound small same across inside, put, ok_bind,
      ih (size.trans same) rest, putRows, put, onward]

theorem countedLayer_eq (layer : Layer) : c.countedLayer layer = c.drawLayer layer := by
  have across : ∀ k < layer.area.right c.shape.width.toNat - layer.area.x.toNat,
      layer.area.x.toNat + k < c.shape.width.toNat := by
    have left : layer.area.right c.shape.width.toNat ≤ c.shape.width.toNat := Nat.min_le_right _ _
    omega
  have down : ∀ k < layer.area.bottom c.shape.height.toNat - layer.area.y.toNat,
      layer.area.y.toNat + k < c.shape.height.toNat := by
    have above : layer.area.bottom c.shape.height.toNat ≤ c.shape.height.toNat := Nat.min_le_right _ _
    omega
  simp only [countedLayer, countedRows_eq sound small rfl across down, drawLayer]
  split <;> rename_i put <;> rw [put] <;> rfl

theorem countedLayers_eq (layers : List Layer) : layers.foldlM countedLayer c = c.drawLayers layers := by
  induction layers generalizing c with
  | nil => rfl
  | cons layer rest ih =>
    obtain ⟨bytes, drawn, size⟩ := drawLayer_ok sound layer
    rw [List.foldlM_cons, countedLayer_eq sound small, drawLayers, drawn, ok_bind]
    exact ih (sound.withBytes size) small

theorem countedDraw_eq (color : Rgba) (layers : List Layer) :
    c.countedDraw color layers = c.draw color layers := by
  obtain ⟨bytes, cleared, size⟩ := clear_ok color c
  rw [countedDraw, draw, cleared, ok_bind]
  exact countedLayers_eq (sound.withBytes size) small layers

theorem countedCopies_eq {y rows : Nat} (packed : Array UInt8)
    (down : ∀ k < rows, y + k < c.shape.height.toNat) :
    (List.range' y rows).foldlM c.countedCopy packed =
      packRows c.bytes (c.shape.width.toNat * 4) c.pitch rows (y * c.pitch) packed := by
  induction rows generalizing y packed with
  | zero => rfl
  | succ n ih =>
    have inside : y < c.shape.height.toNat := down 0 (by omega)
    have room := sound.row_room inside
    have fits := countable sound small
    have rest : ∀ k < n, y + 1 + k < c.shape.height.toNat := by
      intro k hk
      have later := down (k + 1) (by omega)
      omega
    have slice : sliceOf c.bytes (y * c.pitch) (y * c.pitch + c.shape.width.toNat * 4) =
        .ok (c.bytes.extract (y * c.pitch) (y * c.pitch + c.shape.width.toNat * 4)) :=
      if_pos (by omega)
    have copy : c.countedCopy packed y =
        .ok (packed ++ c.bytes.extract (y * c.pitch) (y * c.pitch + c.shape.width.toNat * 4)) := by
      rw [countedCopy, rowStart_eq sound small inside, ok_bind, wordProduct_ok (by omega), ok_bind,
        wordSum_ok (by omega), ok_bind, slice]
      rfl
    rw [List.range'_succ, List.foldlM_cons, copy, ok_bind, ih _ rest, packRows, if_pos (by omega),
      Nat.succ_mul]

theorem countedSnapshot_eq : c.countedSnapshot = c.snapshot := by
  have fits := countable sound small
  have area : c.shape.width.toNat * c.shape.height.toNat * 4 ≤ c.bytes.size := by
    rw [sound.size_eq, pitch, Nat.mul_comm c.shape.width.toNat, Nat.mul_assoc]
    exact Nat.mul_le_mul_left _ (Nat.mul_le_mul_right 4 sound.wide)
  have down : ∀ k < c.shape.height.toNat, 0 + k < c.shape.height.toNat := by omega
  have copies := countedCopies_eq sound small
    (Array.mkEmpty (c.shape.width.toNat * c.shape.height.toNat * 4)) down
  have room : reserve (c.shape.width.toNat * c.shape.height.toNat * 4) = .ok (Array.mkEmpty _) :=
    if_pos (by rw [← sound.size] at small; omega)
  rw [Nat.zero_mul] at copies
  rw [countedSnapshot, wordProduct_ok (by omega), ok_bind, wordProduct_ok (by omega), ok_bind, room,
    ok_bind, copies, snapshot]
  split <;> rename_i put <;> rw [put] <;> rfl

end Stores

/-- A store whose rows overlap has no room for its last pixel. -/
example : countedLayer ⟨1, ⟨2, 1, 1, .rgba8888, .none, 1⟩, #[0, 0, 0, 0]⟩
    ⟨0, ⟨0, 0, 2, 1⟩, ⟨9, 9, 9, 9⟩⟩ = .error (.outOfRange 8 4) := rfl

end Canvas

namespace Painter

/-- Composes as `compose` does, and with every offset counted and every slice checked. -/
def countedCompose (target : LiveBuffer) (layers : List Layer) (p : Painter) : Painted × Painter :=
  match p.accepts target with
  | .error e => (.refused e, p)
  | .ok () =>
    match p.canvasFor target with
    | .error e => (.crashed e, { p with canvas := none })
    | .ok canvas =>
      match canvas.countedDraw p.clearColor layers with
      | .error e => (.crashed e, { p with canvas := some canvas })
      | .ok drawn =>
        match drawn.countedSnapshot with
        | .error e => (.crashed e, { p with canvas := some drawn })
        | .ok frame => (.done, { p with canvas := some drawn, lastFrame := frame })

variable {p : Painter} {target : LiveBuffer} {layers : List Layer}

theorem countedCompose_eq (stocked : p.Stocked) (target : LiveBuffer) (layers : List Layer) :
    p.countedCompose target layers = p.compose target layers := by
  cases asked : p.accepts target with
  | error e => simp only [countedCompose, compose, asked]
  | ok =>
    obtain ⟨_, valid, rgba⟩ := accepted asked
    rcases canvasFor_cases stocked valid rgba with ⟨canvas, made, sound, small, _⟩ | ⟨lost, _⟩
    · obtain ⟨bytes, frame, drawn, size, taken, done⟩ := compose_of_canvas asked made sound layers
      have copied := Canvas.countedSnapshot_eq (sound.withBytes size) small
      simp only [countedCompose, asked, made, Canvas.countedDraw_eq sound small, drawn, copied, taken, done]
    · simp only [countedCompose, compose, asked, lost]

def Lacks (p : Painter) (target : LiveBuffer) : Prop :=
  ∀ c, p.canvas = some c → c.fingerprint ≠ target.fingerprint

theorem fresh_error_iff {e : Crash} : Canvas.fresh target = .error e ↔
    e = .capacityOverflow ∧ Canvas.largestStore < target.shape.size := by
  by_cases small : target.shape.size ≤ Canvas.largestStore
  · simp [Canvas.fresh_of_fits small, Nat.not_lt.mpr small]
  · have large := Nat.not_le.mp small
    simp [Canvas.fresh_of_large large, large, eq_comm]

theorem canvasFor_error_iff {e : Crash} : p.canvasFor target = .error e ↔
    e = .capacityOverflow ∧ p.Lacks target ∧ Canvas.largestStore < target.shape.size := by
  cases kept : p.canvas with
  | none => simp [canvasFor, Lacks, kept, fresh_error_iff]
  | some c =>
    by_cases same : c.fingerprint = target.fingerprint
    · simp [canvasFor, Lacks, kept, same]
    · simp [canvasFor, Lacks, kept, same, fresh_error_iff]

theorem compose_crashed_iff (stocked : p.Stocked) {e : Crash} :
    (p.compose target layers).1 = .crashed e ↔ e = .capacityOverflow ∧ p.accepts target = .ok () ∧
      p.Lacks target ∧ Canvas.largestStore < target.shape.size := by
  have ends : (p.compose target layers).1 = .crashed e ↔
      p.accepts target = .ok () ∧ p.canvasFor target = .error e := by
    cases asked : p.accepts target with
    | error cause => simp [compose, asked]
    | ok =>
      cases made : p.canvasFor target with
      | error cause => simp [compose, asked, made]
      | ok canvas =>
        obtain ⟨_, valid, rgba⟩ := accepted asked
        obtain ⟨_, had, sound, _⟩ | ⟨lost, _⟩ := canvasFor_cases stocked valid rgba
        · cases made.symm.trans had
          obtain ⟨_, _, _, _, _, done⟩ := compose_of_canvas asked made sound layers
          simp [done]
        · cases made.symm.trans lost
  rw [ends, canvasFor_error_iff, and_left_comm]

/-- Whatever a renderer is asked for, the store that it keeps has as many bytes as its own shape says, in
rows that do not overlap. Drawing in words of 64 bits, with every offset and every slice checked, comes to
the same as drawing without; so the only crash is that of asking for a new store that is too large. -/
theorem drawing_stays_inside_store (clear : Rgba) (calls : List PaintCall) :
    let p := series.run { clearColor := clear } calls
    (∀ c, p.canvas = some c →
      c.shape.byteLength? = some c.bytes.size ∧ c.shape.width ≤ c.shape.stride) ∧
    (∀ target layers, p.countedCompose target layers = p.compose target layers) ∧
    ∀ call e, (p.call call).1 = .crashed e ↔ e = .capacityOverflow ∧
      ∃ target layers, call = .compose target layers ∧ p.accepts target = .ok () ∧ p.Lacks target ∧
        Canvas.largestStore < target.shape.size := by
  intro p
  have stocked : p.Stocked := (run_keeps (stocked_new clear) calls).1
  refine ⟨fun c kept => ?_, countedCompose_eq stocked, fun call e => ?_⟩
  · obtain ⟨sound, small⟩ := stocked c kept
    have addressable : c.shape.size < addressSpace := sound.size ▸ Canvas.countable sound small
    refine ⟨?_, UInt32.le_iff_toNat_le.mpr sound.wide⟩
    rw [BufferShape.byteLength?, if_pos addressable, sound.size]
  · cases call with
    | start shape =>
      obtain done | ⟨cause, refused⟩ := start_cases shape p
      · simp [Painter.call, done]
      · simp [Painter.call, refused]
    | compose target layers =>
      rw [Painter.call, compose_crashed_iff stocked]
      simp

end Painter

end DisplaySurface
