import DisplaySurface.Json.Fault
import DisplaySurface.Text.Basic

/-!
Numbers of a JSON document. A number without fraction and exponent is an integer where it fits into 64
bits, signed below zero and unsigned above; all others, and minus zero, are doubles. A double is the
number formed by the leading digits that fit into 64 bits, scaled by a power of ten.
-/

namespace DisplaySurface.Json

inductive Number where
  | natural (n : Nat)
  /-- The number `-n`, for a positive `n`. -/
  | negative (n : Nat)
  | double (x : Float)

def digit? (c : Char) : Option Nat :=
  Text.digitValue? 10 c

def isDigit (c : Char) : Bool :=
  (digit? c).isSome

def startsWithDigit : List Char → Bool
  | [] => false
  | c :: _ => isDigit c

def dropDigits (s : List Char) : List Char :=
  s.dropWhile isDigit

/-- Takes digits behind a number `n` as long as it fits into 64 bits: the number, how many digits were
taken, and the text behind them. -/
def takeDigits (n taken : Nat) : List Char → Nat × Nat × List Char
  | [] => (n, taken, [])
  | c :: s =>
    match digit? c with
    | none => (n, taken, c :: s)
    | some v =>
      if n * 10 + v < UInt64.size then takeDigits (n * 10 + v) (taken + 1) s else (n, taken, c :: s)

def scaleDown (x : Float) (k : Nat) : Float :=
  if k ≤ 308 then x / Float.ofScientific 1 false k
  else if x == 0 then x
  else scaleDown (x / Float.ofScientific 1 false 308) (k - 308)
termination_by k
decreasing_by omega

def scaleUp (x : Float) (k : Nat) : Except Fault Float :=
  if k ≤ 308 then
    let y := x * Float.ofScientific 1 false k
    if y.isInf then .error .numberOutOfRange else .ok y
  else if x == 0 then .ok x
  else .error .numberOutOfRange

def scale (n : Nat) (e : Int) : Except Fault Float :=
  let x := (UInt64.ofNat n).toFloat
  if 0 ≤ e then scaleUp x e.toNat else .ok (scaleDown x (-e).toNat)

def readExponent (n : Nat) (e : Int) (s : List Char) : Except Fault (Float × List Char) :=
  let (down, s) := match s with
    | '+' :: s => (false, s)
    | '-' :: s => (true, s)
    | s => (false, s)
  match s with
  | [] => .error .endInValue
  | c :: _ =>
    if isDigit c then
      let places : Nat := ((s.takeWhile isDigit).filterMap digit?).foldl (fun k v => k * 10 + v) 0
      match scale n (if down then e - (places : Int) else e + (places : Int)) with
      | .ok x => .ok (x, dropDigits s)
      | .error f => .error f
    else .error .invalidNumber

def readScaled (n : Nat) (e : Int) (s : List Char) : Except Fault (Float × List Char) :=
  match s with
  | 'e' :: rest | 'E' :: rest => readExponent n e rest
  | _ =>
    match scale n e with
    | .ok x => .ok (x, s)
    | .error f => .error f

def readFraction (n : Nat) (e : Int) (s : List Char) : Except Fault (Float × List Char) :=
  let (n, taken, rest) := takeDigits n 0 s
  if taken = 0 ∧ !startsWithDigit rest then
    .error (if rest.isEmpty then .endInValue else .invalidNumber)
  else readScaled n (e - taken) (dropDigits rest)

def readReal (n : Nat) (e : Int) (s : List Char) : Except Fault (Float × List Char) :=
  match s with
  | '.' :: rest => readFraction n e rest
  | _ => readScaled n e s

def signed (positive : Bool) : Except Fault (Float × List Char) → Except Fault (Number × List Char)
  | .ok (x, rest) => .ok (.double (if positive then x else -x), rest)
  | .error f => .error f

def integer (positive : Bool) (n : Nat) : Number :=
  if positive then .natural n
  else if 0 < n ∧ n ≤ UInt64.size / 2 then .negative n
  else .double (-(UInt64.ofNat n).toFloat)

def readNumber (positive : Bool) : List Char → Except Fault (Number × List Char)
  | [] => .error .endInValue
  | c :: s =>
    match digit? c with
    | none => .error .invalidNumber
    | some v =>
      if v = 0 ∧ startsWithDigit s then .error .invalidNumber
      else
        let (n, _, rest) := takeDigits v 0 s
        if startsWithDigit rest then
          signed positive (readReal n (rest.takeWhile isDigit).length (dropDigits rest))
        else
          match rest with
          | '.' :: _ | 'e' :: _ | 'E' :: _ => signed positive (readReal n 0 rest)
          | _ => .ok (integer positive n, rest)

def skipExponent (s : List Char) : Except Fault (List Char) :=
  let s := match s with
    | '+' :: s | '-' :: s => s
    | s => s
  if startsWithDigit s then .ok (dropDigits s) else .error .invalidNumber

def skipFraction : List Char → Except Fault (List Char)
  | '.' :: s =>
    if startsWithDigit s then
      match dropDigits s with
      | 'e' :: s | 'E' :: s => skipExponent s
      | s => .ok s
    else .error .invalidNumber
  | 'e' :: s | 'E' :: s => skipExponent s
  | s => .ok s

def skipNumber : List Char → Except Fault (List Char)
  | '0' :: s => if startsWithDigit s then .error .invalidNumber else skipFraction s
  | c :: s => if isDigit c then skipFraction (dropDigits s) else .error .invalidNumber
  | [] => .error .invalidNumber

end DisplaySurface.Json
