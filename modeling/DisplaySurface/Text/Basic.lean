/-!
White space in the sense of the Unicode property of that name, and natural numbers written in digits.
`readDigits` takes a text of digits, with at most one plus sign in front, for a number below a bound; a
text that fails is refused at the first character that makes it fail. `writeDigits` writes a number
without a sign or leading zeros.
-/

namespace DisplaySurface.Text

def blankRanges : List (Nat × Nat) :=
  [(0x09, 0x0D), (0x20, 0x20), (0x85, 0x85), (0xA0, 0xA0), (0x1680, 0x1680), (0x2000, 0x200A),
   (0x2028, 0x2029), (0x202F, 0x202F), (0x205F, 0x205F), (0x3000, 0x3000)]

def isBlank (c : Char) : Bool :=
  blankRanges.any fun (lo, hi) => lo ≤ c.toNat && c.toNat ≤ hi

def trimLeft (cs : List Char) : List Char :=
  cs.dropWhile isBlank

def trim (cs : List Char) : List Char :=
  (trimLeft (trimLeft cs).reverse).reverse

example : blankRanges.foldl (fun n (lo, hi) => n + (hi + 1 - lo)) 0 = 25 := by decide

inductive DigitsError where
  | empty
  | badDigit
  | tooLarge
  deriving DecidableEq, Repr

def DigitsError.message : DigitsError → String
  | .empty => "cannot parse integer from empty string"
  | .badDigit => "invalid digit found in string"
  | .tooLarge => "number too large to fit in target type"

def hexValue? (c : Char) : Option Nat :=
  if '0' ≤ c ∧ c ≤ '9' then some (c.toNat - 48)
  else if 'a' ≤ c ∧ c ≤ 'f' then some (c.toNat - 87)
  else if 'A' ≤ c ∧ c ≤ 'F' then some (c.toNat - 55)
  else none

def digitValue? (base : Nat) (c : Char) : Option Nat :=
  (hexValue? c).filter (· < base)

def readDigitsFrom (base bound n : Nat) : List Char → Except DigitsError Nat
  | [] => .ok n
  | c :: rest =>
    match digitValue? base c with
    | none => .error .badDigit
    | some v =>
      if n * base + v < bound then readDigitsFrom base bound (n * base + v) rest
      else .error .tooLarge

def readDigits (base bound : Nat) : List Char → Except DigitsError Nat
  | [] => .error .empty
  | ['+'] => .error .badDigit
  | '+' :: rest => readDigitsFrom base bound 0 rest
  | cs => readDigitsFrom base bound 0 cs

/-- Bases up to sixteen, with small letters. -/
def writeDigits (base n : Nat) : List Char :=
  Nat.toDigits base n

end DisplaySurface.Text
