/-!
The shortest decimal that stands for a binary number. A binary number stands for every real number that
is rounded to it, which is an interval around it; among the decimals in the interval those with the
fewest digits are taken, and of these the nearest. All arithmetic is on natural numbers.
-/

namespace DisplaySurface

structure Decimal where
  digits : Nat
  exponent : Int
  deriving DecidableEq, Repr

namespace Decimal

/-- The number `m * 2 ^ q`. At a `lowEdge` the next number below is only half as far away as the one
above. -/
structure Binary where
  m : Nat
  q : Int
  lowEdge : Bool
  deriving DecidableEq, Repr

def Binary.ofBits (bits : UInt64) : Binary :=
  let unit := 0x10000000000000
  let fraction := bits.toNat % unit
  let exponent := bits.toNat / unit % 0x800
  if exponent = 0 then { m := fraction, q := -1074, lowEdge := false }
  else
    { m := fraction + unit, q := (exponent : Int) - 1075
      lowEdge := fraction = 0 && 1 < exponent }

def magnitude (num den : Nat) : Int :=
  if den ≤ num then (Nat.toDigits 10 (num / den)).length - 1
  else -((Nat.toDigits 10 ((den + num - 1) / num - 1)).length : Int)

/-- The nearest multiple of `step` between `low` and `high`, the ends being in or out; `v` lies between
them as well, and only its two neighbours can be nearest. -/
def nearest? (low v high step : Nat) (closed : Bool) : Option Nat :=
  let inside (x : Nat) : Bool := if closed then low ≤ x && x ≤ high else low < x && x < high
  let below := v / step
  let down := below * step
  let up := down + step
  if inside down && inside up then
    if v - down < up - v || (v - down = up - v && below % 2 = 0) then some below
    else some (below + 1)
  else if inside down then some below
  else if inside up then some (below + 1)
  else none

def shortestFrom (low v high den : Nat) (closed : Bool) (k : Int) (n : Nat) : Nat → Decimal
  | 0 => { digits := v / den, exponent := 0 }
  | tries + 1 =>
    let p := k - (n : Int) + 1
    let a := Nat.pow 10 (-p).toNat
    let step := den * Nat.pow 10 p.toNat
    match nearest? (low * a) (v * a) (high * a) step closed with
    | some digits => { digits, exponent := p }
    | none => shortestFrom low v high den closed k (n + 1) tries

def shortest (b : Binary) : Decimal :=
  let e := b.q - 2
  let mult := Nat.pow 2 e.toNat
  let den := Nat.pow 2 (-e).toNat
  let v := 4 * b.m * mult
  let low := (4 * b.m - if b.lowEdge then 1 else 2) * mult
  let high := (4 * b.m + 2) * mult
  shortestFrom low v high den (b.m % 2 = 0) (magnitude v den) 1 17

end Decimal

end DisplaySurface
