import DisplaySurface.Config.File
import DisplaySurface.Machine.Step
import DisplaySurface.Picture.Painter

/-!
The command line: a bar sweeps over a backdrop on a headless display for a number of frames, and then
another owner takes the display.
-/

namespace DisplaySurface.Cli

def defaultFrameCount : Nat := 60

/-- In pixels, also the way that the bar goes from frame to frame. -/
def barWidth : UInt32 := 8

def barOffset (frame : UInt64) (width : UInt32) : UInt32 :=
  UInt32.ofNat ((frame * barWidth.toUInt64).toNat % (max width 1).toNat)

def sweepLayers (info : DisplayInfo) (frame : Nat) : List Layer :=
  let width := max info.width 1
  [{ zOrder := 1
     area := { x := barOffset (UInt64.ofNat frame) width, y := 0, width := barWidth
               height := info.height }
     color := ⟨255, 255, 255, 255⟩ },
   { zOrder := 0
     area := { x := 0, y := info.height / 4, width, height := info.height / 2 }
     color := ⟨0, 64, 128, 255⟩ }]

inductive Level where
  | info
  | warn
  deriving DecidableEq, Repr

def Level.name : Level → String
  | info => "INFO"
  | warn => "WARN"

structure Report where
  exitCode : Nat
  log : List (Level × String)
  errors : List String := []
  deriving DecidableEq, Repr

def indented (first rest text : String) : List String :=
  match text.splitOn "\n" with
  | [] => []
  | line :: lines => (first ++ line) :: lines.map (rest ++ ·)

def causeLines : List String → List String
  | [] => []
  | [cause] => indented "    " "    " cause
  | causes => (causes.mapIdx fun i cause => indented s!"    {i}: " "       " cause).flatten

def errorLines (message : String) (causes : List String) : List String :=
  ("Error: " ++ message).splitOn "\n"
    ++ if causes.isEmpty then [] else "" :: "Caused by:" :: causeLines causes

def failed (log : List (Level × String)) (message : String) (causes : List String) : Report :=
  { exitCode := 1, log, errors := errorLines message causes }

def crashCode : Nat := 101

abbrev Painting := Machine Painter × HeadlessDisplay

def settle (p : Painting) : Painting :=
  Machine.settle (fun _ => false) p

def showFrame (frame : Nat) (p : Painting) : Except SessionError Outcome × Painting :=
  match p.1.acquire with
  | (.error e, m) => (.error e, (m, p.2))
  | (.ok c, m) =>
    let p := settle (m.release frame (c.add (sweepLayers m.info frame)), p.2)
    (.ok ((p.1.returned.lookup frame).getD (.error .shutDown)), p)

def notShown (frame : Nat) (e : SessionError) : Level × String :=
  (.warn, s!"Frame {frame} was not shown: " ++ e.message)

def showFrames : (left : Nat) → (frame : Nat) → List (Level × String) → Painting →
    Except SessionError Unit × List (Level × String) × Painting
  | 0, _, log, p => (.ok (), log, p)
  | left + 1, frame, log, p =>
    match showFrame frame p with
    | (.error e, p) => (.error e, log, p)
    | (.ok (.ok ()), p) => showFrames left (frame + 1) log p
    | (.ok (.error e), p) => showFrames left (frame + 1) (notShown frame e :: log) p

def closingLines (p : Painting) : List (Level × String) :=
  let shared := p.1.shared
  let last := p.1.renderer.lastFrame
  let after := settle (p.1.shutdown, p.2)
  [(.info, s!"Presented {shared.tally.presented} frames ({p.2.imports} imports), display "
      ++ shared.requested.name ++ ", " ++ shared.tally.shown),
   (.info, s!"Last frame: {last.width}x{last.height}, fingerprint {last.fingerprint}"),
   (.info, "Another owner took the display, shutting down"),
   (.info, "Display session exited: " ++ after.1.shared.requested.name)]

def sweep (spawn : Spawn) (count : Nat) (c : Config) : Report :=
  let start := [(Level.info, "Starting display session with " ++ c.display.shown)]
  match Machine.create c.displayInfo c.bufferShape ({ clearColor := ⟨0, 0, 0, 255⟩ } : Painter) {} with
  | (.error e, _) => failed start "Failed to create display session" e.causes
  | (.ok m, d) =>
    match m.setState .visibleOnNextFrame spawn with
    | (.crashed crash, _) => { exitCode := crashCode, log := start, errors := [crash.message] }
    | (.returned (.error e), _) => failed start "Failed to make display visible" [e.message]
    | (.returned (.ok ()), m) =>
      match showFrames count 0 [] (settle (m, d)) with
      | (.error e, log, _) =>
        failed (start ++ log.reverse) "Failed to acquire target buffer" [e.message]
      | (.ok (), log, p) => { exitCode := 0, log := start ++ log.reverse ++ closingLines p }

/-- Runs with the arguments behind the program's name, and the configuration file, if one is named, on a
system that creates threads as `spawn` says. -/
def runOn (spawn : RenderSection → Spawn) (args : List String) (file : Option Config.FileContent) :
    Report :=
  let c := Config.orDefault file
  match args with
  | [] => sweep (spawn c.render) defaultFrameCount c
  | arg :: _ =>
    match Text.readDigits 10 UInt64.size arg.toList with
    | .ok count => sweep (spawn c.render) count c
    | .error e => failed [] s!"Invalid frame count '{arg}'" [e.message]

def run (args : List String) (file : Option Config.FileContent) : Report :=
  runOn RenderSection.spawn args file

end DisplaySurface.Cli
