import DisplaySurface.Config.Document
import DisplaySurface.Proofs.Config.Sections

/-!
What a document overrides. A choice says which fields a document names and with which values; a document in
which it is written, in any order and among anything else, is read as the defaults with these fields replaced.
-/

namespace DisplaySurface.Config

structure DisplayChoice where
  displayId : Option UInt64 := none
  name : Option String := none
  width : Option UInt32 := none
  height : Option UInt32 := none
  vendorFlags : Option UInt32 := none

/-- A width or height may be chosen to be none. -/
structure BufferChoice where
  width : Option (Option UInt32) := none
  height : Option (Option UInt32) := none
  layers : Option UInt32 := none
  format : Option PixelFormat := none
  usage : Option Usage := none

structure RenderChoice where
  threadName : Option String := none
  stackSize : Option (Option UInt64) := none

/-- A section that is not there chooses nothing. -/
structure Choice where
  display : Option DisplayChoice := none
  buffer : Option BufferChoice := none
  render : Option RenderChoice := none

def DisplayChoice.over (c : DisplayChoice) (s : DisplaySection) : DisplaySection :=
  { displayId := c.displayId.getD s.displayId
    name := c.name.getD s.name
    width := c.width.getD s.width
    height := c.height.getD s.height
    vendorFlags := c.vendorFlags.getD s.vendorFlags }

def BufferChoice.over (c : BufferChoice) (s : BufferSection) : BufferSection :=
  { width := c.width.getD s.width
    height := c.height.getD s.height
    layers := c.layers.getD s.layers
    format := c.format.getD s.format
    usage := c.usage.getD s.usage }

def RenderChoice.over (c : RenderChoice) (s : RenderSection) : RenderSection :=
  { threadName := c.threadName.getD s.threadName
    stackSize := c.stackSize.getD s.stackSize }

def Choice.config (c : Choice) : Config :=
  { display := (c.display.getD {}).over {}
    buffer := (c.buffer.getD {}).over {}
    render := (c.render.getD {}).over {} }

def DisplayChoice.entries (c : DisplayChoice) : List (Entry DisplaySection) :=
  [c.displayId.map fun v => ⟨"display_id", (· = Json.writeNat v.toNat), fun s => { s with displayId := v }⟩,
   c.name.map fun v => ⟨"name", Json.Spells v, fun s => { s with name := v }⟩,
   c.width.map fun v => ⟨"width_px", (· = Json.writeNat v.toNat), fun s => { s with width := v }⟩,
   c.height.map fun v => ⟨"height_px", (· = Json.writeNat v.toNat), fun s => { s with height := v }⟩,
   c.vendorFlags.map fun v =>
    ⟨"vendor_flags", (· = Json.writeNat v.toNat), fun s => { s with vendorFlags := v }⟩].reduceOption

def BufferChoice.entries (c : BufferChoice) : List (Entry BufferSection) :=
  [c.width.map fun v =>
    ⟨"width_px", (· = Json.writeOption (Json.writeNat ·.toNat) v), fun s => { s with width := v }⟩,
   c.height.map fun v =>
    ⟨"height_px", (· = Json.writeOption (Json.writeNat ·.toNat) v), fun s => { s with height := v }⟩,
   c.layers.map fun v => ⟨"layers", (· = Json.writeNat v.toNat), fun s => { s with layers := v }⟩,
   c.format.map fun v => ⟨"format", FormatText v, fun s => { s with format := v }⟩,
   c.usage.map fun v => ⟨"usage", UsageText v, fun s => { s with usage := v }⟩].reduceOption

def RenderChoice.entries (c : RenderChoice) : List (Entry RenderSection) :=
  [c.threadName.map fun v => ⟨"thread_name", Json.Spells v, fun s => { s with threadName := v }⟩,
   c.stackSize.map fun v =>
    ⟨"stack_size", (· = Json.writeOption (Json.writeNat ·.toNat) v),
      fun s => { s with stackSize := v }⟩].reduceOption

def Choice.entries (c : Choice) : List (Entry Config) :=
  [c.display.map fun v =>
    ⟨"display", SectionText (displayFields.map (·.name)) v.entries, fun s => { s with display := v.over {} }⟩,
   c.buffer.map fun v =>
    ⟨"buffer", SectionText (bufferFields.map (·.name)) v.entries, fun s => { s with buffer := v.over {} }⟩,
   c.render.map fun v =>
    ⟨"render", SectionText (renderFields.map (·.name)) v.entries,
      fun s => { s with render := v.over {} }⟩].reduceOption

/-- The document makes this choice: its sections and their fields may stand in any order, unknown members
with values of any kind between them, and blanks around everything. -/
def Choice.Written (c : Choice) (text : String) : Prop :=
  ∃ before document after, Json.Blank before ∧ Json.Blank after ∧
    SectionText (sections.map (·.name)) c.entries document ∧
    text.toList = before ++ (document ++ after)

section Entries

variable {α β γ : Type} {fields : List (Field α)} {os : List (Option (Entry α))}

theorem fits_of {e : Entry α} {field : Field α} {read : Reader β} {put : β → α → α} {b : β}
    (same : field = .of e.name read put) (puts : e.put = put b)
    (reads : ∀ text, e.Text text → Reads read text b) : e.Fits field := by
  subst same
  constructor
  · rfl
  · intro text written a
    rw [puts]
    exact (reads text written).map (put · a)

theorem fits_map {o : Option γ} {f : γ → Entry α} {field : Field α} (fits : ∀ c, (f c).Fits field) :
    ∀ e ∈ o.map f, e.Fits field := by
  intro e mem
  obtain ⟨c, _, rfl⟩ := Option.map_eq_some_iff.mp mem
  exact fits c

theorem find?_of_fits (fits : List.Forall₂ (fun o field => ∀ e ∈ o, Entry.Fits e field) os fields)
    (distinct : (fields.map (·.name)).Nodup) {e : Entry α} (mem : e ∈ os.reduceOption) :
    ∃ field, fields.find? (·.name = e.name) = some field ∧ e.Fits field := by
  have chosen := List.reduceOption_mem_iff.mp mem
  clear mem
  induction fits with
  | nil => cases chosen
  | @cons o field os fields here _ ih =>
    obtain ⟨other, distinct⟩ := List.nodup_cons.mp distinct
    rcases List.mem_cons.mp chosen with first | later
    · have fit := here e first.symm
      exact ⟨field, List.find?_cons_of_pos (by simp [fit.name]), fit⟩
    · obtain ⟨field', found, fit⟩ := ih distinct later
      have different : field.name ≠ e.name := by
        intro same
        apply other
        rw [List.mem_map]
        exact ⟨field', List.mem_of_find?_eq_some found, fit.name.trans same.symm⟩
      exact ⟨field', by rw [List.find?_cons_of_neg (by simp [different]), found], fit⟩

theorem names_sublist (fits : List.Forall₂ (fun o field => ∀ e ∈ o, Entry.Fits e field) os fields) :
    (os.reduceOption.map (·.name)).Sublist (fields.map (·.name)) := by
  induction fits with
  | nil => exact .slnil
  | @cons o field os fields here _ ih =>
    cases o with
    | none => exact ih.cons field.name
    | some e =>
      rw [List.reduceOption_cons_of_some, List.map_cons, List.map_cons, (here e rfl).name]
      exact ih.cons_cons e.name

theorem reads_choice (fits : List.Forall₂ (fun o field => ∀ e ∈ o, Entry.Fits e field) os fields)
    (distinct : (fields.map (·.name)).Nodup)
    (apart : os.Pairwise fun o o' => ∀ e ∈ o, ∀ e' ∈ o', ∀ a, e'.put (e.put a) = e.put (e'.put a))
    {text : List Char} (written : SectionText (fields.map (·.name)) os.reduceOption text) (name : String)
    (a : α) : Reads (readSection name fields a) text (os.reduceOption.foldl (fun a e => e.put a) a) := by
  have pairs := List.pairwise_filterMap.mpr apart
  apply reads_section written
  · intro e mem
    exact find?_of_fits fits distinct mem
  · exact (names_sublist fits).nodup distinct
  · intro e mem e' mem'
    have symmetric : Std.Symm fun e e' : Entry α => ∀ a, e'.put (e.put a) = e.put (e'.put a) :=
      ⟨fun _ _ h a => (h a).symm⟩
    exact pairs.forall_of_forall (fun _ _ _ => rfl) mem mem'

end Entries

section Reading

variable {text : List Char}

theorem DisplayChoice.reads {c : DisplayChoice}
    (written : SectionText (displayFields.map (·.name)) c.entries text) :
    Reads (readSection "DisplayConfig" displayFields {}) text (c.over {}) := by
  have fields : c.entries.foldl (fun s e => e.put s) {} = c.over {} := by
    rcases c with ⟨_ | _, _ | _, _ | _, _ | _, _ | _⟩ <;> rfl
  rw [← fields]
  refine reads_choice ?_ (by decide) (by simp) written _ _
  refine .cons (fits_map fun v => fits_of rfl rfl ?_) <| .cons (fits_map fun v => fits_of rfl rfl ?_) <|
    .cons (fits_map fun v => fits_of rfl rfl ?_) <| .cons (fits_map fun v => fits_of rfl rfl ?_) <|
    .cons (fits_map fun v => fits_of rfl rfl ?_) .nil
  · rintro _ rfl
    exact reads_uint64 v .word64
  · intro _ spelled
    exact reads_text spelled .text
  · rintro _ rfl
    exact reads_uint32 v
  · rintro _ rfl
    exact reads_uint32 v
  · rintro _ rfl
    exact reads_uint32 v

theorem BufferChoice.reads {c : BufferChoice}
    (written : SectionText (bufferFields.map (·.name)) c.entries text) :
    Reads (readSection "BufferConfig" bufferFields {}) text (c.over {}) := by
  have fields : c.entries.foldl (fun s e => e.put s) {} = c.over {} := by
    rcases c with ⟨_ | _, _ | _, _ | _, _ | _, _ | _⟩ <;> rfl
  have small (n : UInt32) : n.toNat < UInt64.size := Nat.lt_trans n.toNat_lt (by decide)
  rw [← fields]
  refine reads_choice ?_ (by decide) (by simp) written _ _
  refine .cons (fits_map fun v => fits_of rfl rfl ?_) <| .cons (fits_map fun v => fits_of rfl rfl ?_) <|
    .cons (fits_map fun v => fits_of rfl rfl ?_) <| .cons (fits_map fun v => fits_of rfl rfl ?_) <|
    .cons (fits_map fun v => fits_of rfl rfl ?_) .nil
  · rintro _ rfl
    exact reads_option reads_uint32 small v
  · rintro _ rfl
    exact reads_option reads_uint32 small v
  · rintro _ rfl
    exact reads_uint32 v
  · intro _ written
    exact reads_format written
  · intro _ written
    exact reads_usage written

theorem RenderChoice.reads {c : RenderChoice}
    (written : SectionText (renderFields.map (·.name)) c.entries text) :
    Reads (readSection "RenderConfig" renderFields {}) text (c.over {}) := by
  have fields : c.entries.foldl (fun s e => e.put s) {} = c.over {} := by
    rcases c with ⟨_ | _, _ | _⟩ <;> rfl
  rw [← fields]
  refine reads_choice ?_ (by decide) (by simp) written _ _
  refine .cons (fits_map fun v => fits_of rfl rfl ?_) <|
    .cons (fits_map fun v => fits_of rfl rfl ?_) .nil
  · intro _ spelled
    exact reads_text spelled .text
  · rintro _ rfl
    exact reads_option (reads_uint64 · .size) UInt64.toNat_lt v

theorem Choice.reads {c : Choice} (written : SectionText (sections.map (·.name)) c.entries text) :
    Reads (readSection "Config" sections {}) text c.config := by
  have fields : c.entries.foldl (fun s e => e.put s) {} = c.config := by
    rcases c with ⟨_ | _, _ | _, _ | _⟩ <;> rfl
  rw [← fields]
  refine reads_choice ?_ (by decide) (by simp) written _ _
  refine .cons (fits_map fun v => fits_of rfl rfl ?_) <| .cons (fits_map fun v => fits_of rfl rfl ?_) <|
    .cons (fits_map fun v => fits_of rfl rfl ?_) .nil
  · intro _ written
    exact v.reads written
  · intro _ written
    exact v.reads written
  · intro _ written
    exact v.reads written

theorem Choice.Written.read {c : Choice} {text : String} (written : c.Written text) :
    Config.read text = .ok c.config := by
  obtain ⟨before, document, after, blank, blank', section_text, text_eq⟩ := written
  have ends := Json.ends_nil.behind blank'
  have behind := Json.skipBlank_append blank' []
  rw [List.append_nil] at ends behind
  rw [Config.read, text_eq, Choice.reads section_text before after blank ends]
  simp only [behind]
  rfl

/-- A document is read as the defaults with exactly the fields replaced that it names. -/
theorem documents_override_what_they_name {c : Choice} {text : String} (written : c.Written text) :
    Config.read text = .ok c.config :=
  written.read

/-- A document with the sections in another order and a member that is no field. -/
theorem documents_override_what_they_name_reordered :
    Choice.Written { buffer := some { height := some (some 7) }, render := some { stackSize := some none } }
      "\x7b\"render\":\x7b\"x\":[null],\"stack_size\":null\x7d,\"buffer\":\x7b\"height_px\":7\x7d\x7d" ∧
    Config.read
      "\x7b\"render\":\x7b\"x\":[null],\"stack_size\":null\x7d,\"buffer\":\x7b\"height_px\":7\x7d\x7d" =
      .ok { buffer := { height := some 7 } } := by
  have list : Json.IsValue ('[' :: (([] ++ (['n', 'u', 'l', 'l'] ++ [])) ++ [']'])) := by
    refine .list [['n', 'u', 'l', 'l']] _ (.one _ _ _ Json.blank_nil Json.blank_nil) ?_
    intro value mem
    rw [List.mem_singleton.mp mem]
    exact .null
  have unknown : "x" ∉ renderFields.map (·.name) := by decide
  have spelled := Json.spells_writeString
  have render : SectionText (renderFields.map (·.name)) (RenderChoice.entries { stackSize := some none })
      (Json.writeObject [("x", ['[', 'n', 'u', 'l', 'l', ']']), ("stack_size", ['n', 'u', 'l', 'l'])]) :=
    sectionText_writeObject (.refl _)
      (.other unknown (spelled _) list (.entry (spelled "stack_size") rfl .nil))
  have buffer : SectionText (bufferFields.map (·.name)) (BufferChoice.entries { height := some (some 7) })
      (Json.writeObject [("height_px", Json.writeNat 7)]) :=
    sectionText_writeObject (.refl _) (.entry (spelled "height_px") rfl .nil)
  have written : Choice.Written
      { buffer := some { height := some (some 7) }, render := some { stackSize := some none } }
      "\x7b\"render\":\x7b\"x\":[null],\"stack_size\":null\x7d,\"buffer\":\x7b\"height_px\":7\x7d\x7d" :=
    ⟨[], Json.writeObject [("render", _), ("buffer", _)], [], Json.blank_nil, Json.blank_nil,
      sectionText_writeObject (.swap _ _ [])
        (.entry (spelled "render") render (.entry (spelled "buffer") buffer .nil)), by decide⟩
  exact ⟨written, documents_override_what_they_name written⟩

end Reading

end DisplaySurface.Config
