import UiSurface.Number.Binary64

/-!
# Decimal — from decimals to numbers and back

`Decimal.round` gives the number nearest to a decimal.  `shortest` gives, for a number, a decimal
with the fewest digits among those that round back to it, and of those the nearest; it tries one
digit, two digits and so on, in exact integer arithmetic.  How digits are laid out is decided in
`UiSurface.Number`.
-/

namespace UiSurface

/-- The decimal `digits * 10 ^ exponent`. -/
structure Decimal where
  digits : Nat
  exponent : Int
deriving DecidableEq

namespace Decimal

open Binary64 (pow2)

def pow10 (k : Nat) : Nat := Nat.pow 10 k

/-- How many decimal digits a natural number has; zero has one. -/
def digitCount (n : Nat) : Nat := (Nat.toDigits 10 n).length

/-- The number nearest to a decimal.  Decimals beyond the range of numbers need no arithmetic:
from 10 ^ 310 on they are infinite, and below 10 ^ -330 they are zero. -/
def round (negative : Bool) (d : Decimal) : Binary64 :=
  if d.digits = 0 then .zero negative
  else
    -- the value lies below `10 ^ places`, and not below a tenth of it
    let places : Int := d.exponent + digitCount d.digits
    if 310 < places then .infinity negative
    else if places < -330 then .zero negative
    else .nearest negative (d.digits * pow10 d.exponent.toNat) (pow10 (-d.exponent).toNat)

/-! ## The fewest digits that read back -/

/-- Whether `d` lies among the reals that round to `mantissa * 2 ^ scale`.  They reach half a unit
up and half a unit down, a quarter below a power of two, where the unit shrinks; the ends belong to
them when the mantissa is even. -/
def readsBack (mantissa : Nat) (scale : Int) (d : Decimal) : Bool :=
  let narrow := mantissa == pow2 52 && -1074 < scale
  -- both sides are counted in quarters of a unit, which makes the ends integers
  let value := 4 * d.digits * pow10 d.exponent.toNat * pow2 (-scale).toNat
  let unit := pow2 scale.toNat * pow10 (-d.exponent).toNat
  let low := (if narrow then 4 * mantissa - 1 else 4 * mantissa - 2) * unit
  let high := (4 * mantissa + 2) * unit
  if mantissa % 2 = 0 then low ≤ value && value ≤ high else low < value && value < high

/-- How many digits stand before the point: the least `k` with `mantissa * 2 ^ scale < 10 ^ k`.
The binary logarithm gives it up to two. -/
def pointPlace (mantissa : Nat) (scale : Int) : Int :=
  -- the decimal logarithm of two is about 0.30103
  let estimate : Int := ((mantissa.log2 : Int) + scale) * 30103 / 100000
  let isAbove (k : Int) : Bool :=
    mantissa * pow2 scale.toNat * pow10 (-k).toNat < pow10 k.toNat * pow2 (-scale).toNat
  if isAbove estimate then estimate
  else if isAbove (estimate + 1) then estimate + 1
  else estimate + 2

/-- Drops zeros at the end of the digits, at most `fuel` of them. -/
def stripZeros : Nat → Decimal → Decimal
  | 0, d => d
  | fuel + 1, d =>
    if d.digits ≠ 0 ∧ d.digits % 10 = 0 then stripZeros fuel ⟨d.digits / 10, d.exponent + 1⟩ else d

/-- The nearer of the two neighbours of a value on the grid `10 ^ exponent` that read back; a tie
goes to the even one. -/
def onGrid? (mantissa : Nat) (scale : Int) (exponent : Int) : Option Decimal :=
  let num := mantissa * pow2 scale.toNat * pow10 (-exponent).toNat
  let den := pow2 (-scale).toNat * pow10 exponent.toNat
  let lower : Decimal := ⟨num / den, exponent⟩
  let upper : Decimal := ⟨num / den + 1, exponent⟩
  let nearer := if Binary64.roundDiv num den = lower.digits then lower else upper
  let other := if Binary64.roundDiv num den = lower.digits then upper else lower
  if readsBack mantissa scale nearer then some nearer
  else if readsBack mantissa scale other then some other
  else none

def exact (mantissa : Nat) (scale : Int) : Decimal :=
  if 0 ≤ scale then ⟨mantissa * pow2 scale.toNat, 0⟩ else ⟨mantissa * Nat.pow 5 (-scale).toNat, scale⟩

/-- The shortest decimal that rounds back to `mantissa * 2 ^ scale`. -/
def shortest (mantissa : Nat) (scale : Int) : Decimal :=
  let place := pointPlace mantissa scale
  -- seventeen digits tell any two numbers apart, so the exact value is never needed
  let found := (List.range 17).findSome? (fun (n : Nat) => onGrid? mantissa scale (place - (n + 1)))
  stripZeros 17 (found.getD (exact mantissa scale))

end Decimal

end UiSurface
