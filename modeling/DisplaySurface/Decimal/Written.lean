import DisplaySurface.Decimal.Shortest

/-!
Doubles in text: the shortest decimal, with a point and at least one digit on either side of it where
the first digit's exponent lies between -5 and 15, and with an exponent of its own elsewhere.
-/

namespace DisplaySurface.Decimal

def zeros (n : Nat) : List Char :=
  List.replicate n '0'

def significant (d : Decimal) : List Char :=
  match ((Nat.toDigits 10 d.digits).reverse.dropWhile (· = '0')).reverse with
  | [] => ['0']
  | ds => ds

def leading (d : Decimal) : Int :=
  d.exponent + (Nat.toDigits 10 d.digits).length - 1

def writeExponent (e : Int) : List Char :=
  'e' :: (if e < 0 then '-' else '+') :: Nat.toDigits 10 e.natAbs

def write (d : Decimal) : List Char :=
  let ds := d.significant
  let e := d.leading
  if 0 ≤ e ∧ e ≤ 15 then
    let whole := e.toNat + 1
    ds.take whole ++ zeros (whole - ds.length) ++ '.' ::
      (if ds.length ≤ whole then ['0'] else ds.drop whole)
  else if -5 ≤ e ∧ e < 0 then '0' :: '.' :: zeros ((-e).toNat - 1) ++ ds
  else
    match ds with
    | [] => writeExponent e
    | [first] => first :: writeExponent e
    | first :: rest => first :: '.' :: rest ++ writeExponent e

def writeDouble (x : Float) : List Char :=
  let bits := x.toBits
  let sign := if UInt64.size / 2 ≤ bits.toNat then ['-'] else []
  let b := Binary.ofBits bits
  sign ++ if b.m = 0 then ['0', '.', '0'] else (shortest b).write

end DisplaySurface.Decimal
