import DisplaySurface.Cli.Sweep

/-!
The program. Its configuration file is named by an environment variable; log and errors go to standard
error.
-/

namespace DisplaySurface.Cli

def configVariable : String := "DISPLAY_SESSION_CONFIG"

def readConfigFile (path : String) : IO Config.FileContent := do
  try
    return .bytes (← IO.FS.readBinFile path)
  catch e =>
    match e with
    | .noFileOrDirectory .. => return .missing
    | _ => return .directory

def logLine (level : Level) (message : String) : String :=
  "[" ++ level.name.pushn ' ' (5 - level.name.length) ++ " display_session] " ++ message

end DisplaySurface.Cli

open DisplaySurface

def main (args : List String) : IO UInt32 := do
  let file ← match ← IO.getEnv Cli.configVariable with
    | some path => some <$> Cli.readConfigFile path
    | none => pure none
  let report := Cli.run args file
  for (level, message) in report.log do
    IO.eprintln (Cli.logLine level message)
  for line in report.errors do
    IO.eprintln line
  return UInt32.ofNat report.exitCode
