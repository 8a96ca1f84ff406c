import DisplaySurface.Config.Document

/-!
Configurations in files.
-/

namespace DisplaySurface.Config

inductive FileContent where
  | bytes (b : ByteArray)
  | missing
  | directory

inductive FileError where
  | missing
  | directory
  | notText
  deriving DecidableEq, Repr

def FileError.message : FileError → String
  | .missing => "No such file or directory (os error 2)"
  | .directory => "Is a directory (os error 21)"
  | .notText => "stream did not contain valid UTF-8"

inductive LoadError where
  | unreadable (cause : FileError)
  | refused (cause : ReadError)

def FileContent.text : FileContent → Except FileError String
  | .bytes b =>
    match String.fromUTF8? b with
    | some text => .ok text
    | none => .error .notText
  | .missing => .error .missing
  | .directory => .error .directory

def FileError.report (path : String) (e : FileError) : String :=
  s!"Failed to read config file {path}: " ++ e.message

def load (content : FileContent) : Except LoadError Config :=
  match content.text with
  | .error e => .error (.unreadable e)
  | .ok text =>
    match read text with
    | .ok c => .ok c
    | .error e => .error (.refused e)

def orDefault (content : Option FileContent) : Config :=
  match content with
  | none => {}
  | some content =>
    match load content with
    | .ok c => c
    | .error _ => {}

end DisplaySurface.Config
