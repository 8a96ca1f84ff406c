import DisplaySurface.Proofs.Config.Overrides

/-!
A configuration that is written is read back. Its document names every field, so that nothing is left to the
defaults.
-/

namespace DisplaySurface.Config

def Choice.full (c : Config) : Choice :=
  { display := some
      { displayId := some c.display.displayId, name := some c.display.name, width := some c.display.width
        height := some c.display.height, vendorFlags := some c.display.vendorFlags }
    buffer := some
      { width := some c.buffer.width, height := some c.buffer.height, layers := some c.buffer.layers
        format := some c.buffer.format, usage := some c.buffer.usage }
    render := some { threadName := some c.render.threadName, stackSize := some c.render.stackSize } }

theorem Choice.config_full (c : Config) : (Choice.full c).config = c :=
  rfl

theorem usageText_write (u : Usage) : UsageText u (Json.writeString (String.ofList u.write)) := by
  refine ⟨_, Json.spells_writeString _, ?_⟩
  rw [String.toList_ofList]
  exact u.means_write

theorem Choice.full_written (c : Config) : (Choice.full c).Written c.write := by
  have spelled := Json.spells_writeString
  have display : SectionText (displayFields.map (·.name))
      (DisplayChoice.entries ((Choice.full c).display.getD {})) (writeDisplay c.display) :=
    sectionText_writeObject (.refl _) (.entry (spelled _) rfl (.entry (spelled _) (spelled _)
      (.entry (spelled _) rfl (.entry (spelled _) rfl (.entry (spelled _) rfl .nil)))))
  have buffer : SectionText (bufferFields.map (·.name))
      (BufferChoice.entries ((Choice.full c).buffer.getD {})) (writeBuffer c.buffer) :=
    sectionText_writeObject (.refl _) (.entry (spelled _) rfl (.entry (spelled _) rfl
      (.entry (spelled _) rfl (.entry (spelled _) (.name (spelled _))
        (.entry (spelled _) (usageText_write _) .nil)))))
  have render : SectionText (renderFields.map (·.name))
      (RenderChoice.entries ((Choice.full c).render.getD {})) (writeRender c.render) :=
    sectionText_writeObject (.refl _) (.entry (spelled _) (spelled _) (.entry (spelled _) rfl .nil))
  have document : SectionText (sections.map (·.name)) (Choice.full c).entries
      (Json.writeObject [("display", writeDisplay c.display), ("buffer", writeBuffer c.buffer),
        ("render", writeRender c.render)]) :=
    sectionText_writeObject (.refl _) (.entry (spelled _) display (.entry (spelled _) buffer
      (.entry (spelled _) render .nil)))
  refine ⟨[], _, [], Json.blank_nil, Json.blank_nil, document, ?_⟩
  rw [write, String.toList_ofList, List.nil_append, List.append_nil]

/-- What is written is read back, whatever the values are. -/
theorem written_configurations_are_read_back (c : Config) : Config.read c.write = .ok c := by
  have read := (Choice.full_written c).read
  rwa [Choice.config_full] at read

end DisplaySurface.Config
