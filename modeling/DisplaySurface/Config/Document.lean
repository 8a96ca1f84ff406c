import DisplaySurface.Config.Basic
import DisplaySurface.Config.Reader
import DisplaySurface.Json.Written

/-!
A configuration as a JSON document: an object of three sections. What a document leaves out keeps its
default.
-/

namespace DisplaySurface

namespace Config

def Field.of {α β : Type} (name : String) (read : Reader β) (put : β → α → α) : Field α :=
  { name, read := fun a s => (read s).map fun (b, rest) => (put b a, rest) }

def displayFields : List (Field DisplaySection) :=
  [.of "display_id" (readUInt64 .word64) fun v c => { c with displayId := v },
   .of "name" (readText .text) fun v c => { c with name := v },
   .of "width_px" readUInt32 fun v c => { c with width := v },
   .of "height_px" readUInt32 fun v c => { c with height := v },
   .of "vendor_flags" readUInt32 fun v c => { c with vendorFlags := v }]

def bufferFields : List (Field BufferSection) :=
  [.of "width_px" (readOption readUInt32) fun v c => { c with width := v },
   .of "height_px" (readOption readUInt32) fun v c => { c with height := v },
   .of "layers" readUInt32 fun v c => { c with layers := v },
   .of "format" readFormat fun v c => { c with format := v },
   .of "usage" readUsage fun v c => { c with usage := v }]

def renderFields : List (Field RenderSection) :=
  [.of "thread_name" (readText .text) fun v c => { c with threadName := v },
   .of "stack_size" (readOption (readUInt64 .size)) fun v c => { c with stackSize := v }]

def sections : List (Field Config) :=
  [.of "display" (readSection "DisplayConfig" displayFields {}) fun v c => { c with display := v },
   .of "buffer" (readSection "BufferConfig" bufferFields {}) fun v c => { c with buffer := v },
   .of "render" (readSection "RenderConfig" renderFields {}) fun v c => { c with render := v }]

def readContext : String := "Failed to parse display session config"

def read (text : String) : Except ReadError Config :=
  match readSection "Config" sections {} text.toList with
  | .error e => .error e
  | .ok (c, rest) =>
    if (Json.skipBlank rest).isEmpty then .ok c else fail .trailingCharacters

def writeDisplay (s : DisplaySection) : List Char :=
  Json.writeObject
    [("display_id", Json.writeNat s.displayId.toNat), ("name", Json.writeString s.name),
     ("width_px", Json.writeNat s.width.toNat), ("height_px", Json.writeNat s.height.toNat),
     ("vendor_flags", Json.writeNat s.vendorFlags.toNat)]

def writeBuffer (s : BufferSection) : List Char :=
  Json.writeObject
    [("width_px", Json.writeOption (Json.writeNat ·.toNat) s.width),
     ("height_px", Json.writeOption (Json.writeNat ·.toNat) s.height),
     ("layers", Json.writeNat s.layers.toNat), ("format", Json.writeString s.format.name),
     ("usage", Json.writeString (String.ofList s.usage.write))]

def writeRender (s : RenderSection) : List Char :=
  Json.writeObject
    [("thread_name", Json.writeString s.threadName),
     ("stack_size", Json.writeOption (Json.writeNat ·.toNat) s.stackSize)]

def write (c : Config) : String :=
  String.ofList (Json.writeObject
    [("display", writeDisplay c.display), ("buffer", writeBuffer c.buffer),
     ("render", writeRender c.render)])

end Config

end DisplaySurface
