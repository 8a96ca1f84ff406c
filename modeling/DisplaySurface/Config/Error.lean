import DisplaySurface.Buffer.Usage
import DisplaySurface.Decimal.Written
import DisplaySurface.Json.Fault
import DisplaySurface.Json.Number
import DisplaySurface.Buffer.Shape
import DisplaySurface.Text.Quoted

/-!
Why the text of a configuration is refused: its form, the kind or range of a value, or what the value
says.
-/

namespace DisplaySurface.Config

inductive Found where
  | null
  | boolean (b : Bool)
  | integer (n : Int)
  | double (x : Float)
  | text (s : String)
  | list
  | object

def Found.shown : Found → String
  | .null => "null"
  | .boolean b => s!"boolean `{b}`"
  | .integer n => s!"integer `{n}`"
  | .double x => "floating point `" ++ String.ofList (Decimal.writeDouble x) ++ "`"
  | .text s => "string " ++ Text.quoted s
  | .list => "sequence"
  | .object => "map"

def Found.ofNumber : Json.Number → Found
  | .natural n => .integer n
  | .negative n => .integer (-n)
  | .double x => .double x

inductive Expected where
  | word32
  | word64
  | size
  | text
  | usage
  | nothing
  | section (name : String)
  deriving DecidableEq, Repr

def Expected.shown : Expected → String
  | .word32 => "u32"
  | .word64 => "u64"
  | .size => "usize"
  | .text => "a string"
  | .usage => "a string value of `|` separated flags"
  | .nothing => "unit"
  | .section name => "struct " ++ name

inductive ReadError where
  | malformed (fault : Json.Fault)
  | wrongKind (found : Found) (expected : Expected)
  | outOfRange (n : Int) (expected : Expected)
  | duplicateField (name : String)
  | unknownFormat (name : String)
  | badUsage (cause : Usage.ReadError)

/-- Three classes of errors: the text ends too early, is no JSON, or says something that does not fit. -/
inductive ReadError.Class where
  | ends
  | syntactic
  | data
  deriving DecidableEq, Repr

namespace ReadError

def classify : ReadError → Class
  | malformed fault => if fault.isEnd then .ends else .syntactic
  | _ => .data

def message : ReadError → String
  | malformed fault => fault.message
  | wrongKind found expected => "invalid type: " ++ found.shown ++ ", expected " ++ expected.shown
  | outOfRange n expected => s!"invalid value: integer `{n}`, expected " ++ expected.shown
  | duplicateField name => s!"duplicate field `{name}`"
  | unknownFormat name =>
    s!"unknown variant `{name}`, expected one of "
      ++ ", ".intercalate (PixelFormat.all.map fun f => s!"`{f.name}`")
  | badUsage cause => cause.message

end ReadError

end DisplaySurface.Config
