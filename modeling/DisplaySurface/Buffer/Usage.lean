import DisplaySurface.Text.Basic

/-!
What a buffer is meant to be used for, as a word of 64 bits. Five bits have names; the others are kept
as they are. In text the named bits stand by name, separated by bars, and all further bits together as
one hexadecimal number.
-/

namespace DisplaySurface

structure Usage where
  bits : UInt64
  deriving DecidableEq, Repr

namespace Usage

/-- The named bits in the order in which they are written. -/
def named : List (String × UInt64) :=
  [("CPU_READ_OFTEN", 1), ("CPU_WRITE_OFTEN", 2), ("GPU_TEXTURE", 4), ("GPU_RENDER_TARGET", 8),
   ("COMPOSER_OVERLAY", 16)]

def none : Usage := ⟨0⟩
def cpuWriteOften : Usage := ⟨2⟩
def gpuTexture : Usage := ⟨4⟩

def union (a b : Usage) : Usage := ⟨a.bits ||| b.bits⟩

def unnamed (u : Usage) : UInt64 :=
  named.foldl (fun bits (_, bit) => bits &&& ~~~bit) u.bits

def words (u : Usage) : List (List Char) :=
  (named.filter fun (_, bit) => u.bits &&& bit == bit).map (fun (name, _) => name.toList)
    ++ if u.unnamed = 0 then [] else ['0' :: 'x' :: Text.writeDigits 16 u.unnamed.toNat]

def write (u : Usage) : List Char :=
  [' ', '|', ' '].intercalate u.words

inductive ReadError where
  | emptyFlag
  | badNumber
  | unknownName
  deriving DecidableEq, Repr

def ReadError.message : ReadError → String
  | .emptyFlag => "encountered empty flag"
  | .badNumber => "invalid hex flag"
  | .unknownName => "unrecognized named flag"

def readWord : List Char → Except ReadError Usage
  | [] => .error .emptyFlag
  | '0' :: 'x' :: digits =>
    match Text.readDigits 16 UInt64.size digits with
    | .ok n => .ok ⟨UInt64.ofNat n⟩
    | .error _ => .error .badNumber
  | word =>
    match named.lookup (String.ofList word) with
    | some bit => .ok ⟨bit⟩
    | Option.none => .error .unknownName

def readWords (u : Usage) : List (List Char) → Except ReadError Usage
  | [] => .ok u
  | word :: rest =>
    match readWord (Text.trim word) with
    | .ok v => readWords (u.union v) rest
    | .error e => .error e

/-- Text of nothing but white space names no use at all. -/
def read (cs : List Char) : Except ReadError Usage :=
  if (Text.trim cs).isEmpty then .ok none else readWords none (cs.splitOn '|')

end Usage

end DisplaySurface
