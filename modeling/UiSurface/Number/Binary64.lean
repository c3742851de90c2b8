/-!
# Binary64 — double-precision numbers as exact data

A number is its 64 bits.  `shape` reads the bits as an exact value `mantissa * 2 ^ scale`, and
`nearest` goes back from an exact quotient to the closest number, a tie going to the even mantissa.
Every operation is "compute exactly, then round once", so none needs an algorithm of its own.

Main lemma: `two_mul_roundDiv_le` (a rounded quotient is above the exact one by half a unit at most).
-/

namespace UiSurface

/-- A double-precision number, as its 64 bits. -/
structure Binary64 where
  bits : UInt64
deriving DecidableEq, Inhabited

namespace Binary64

def pow2 (k : Nat) : Nat := Nat.pow 2 k

/-- What the bits say.  A finite number is `mantissa * 2 ^ scale`, negated if `negative`. -/
inductive Shape where
  | nan
  | infinite (negative : Bool)
  | finite (negative : Bool) (mantissa : Nat) (scale : Int)
deriving DecidableEq

/-- Reads the bits: one of sign, eleven of exponent, fifty-two of fraction. -/
def shape (x : Binary64) : Shape :=
  let b := x.bits.toNat
  let negative := b / pow2 63 == 1
  let exponent : Nat := b / pow2 52 % 2048
  let fraction : Nat := b % pow2 52
  if exponent = 2047 then
    if fraction = 0 then .infinite negative else .nan
  -- the least exponent has no leading one, and the scale of the next
  else if exponent = 0 then .finite negative fraction (-1074)
  else .finite negative (pow2 52 + fraction) ((exponent : Int) - 1075)

/-- The number with a sign and the sixty-three bits below it. -/
def ofMagnitude (negative : Bool) (magnitude : Nat) : Binary64 :=
  ⟨UInt64.ofNat ((if negative then pow2 63 else 0) + magnitude)⟩

/-- The sixty-three bits of infinity: the first magnitude that is no finite number. -/
def infiniteMagnitude : Nat := 2047 * pow2 52

def zero (negative : Bool) : Binary64 := ofMagnitude negative 0

def infinity (negative : Bool) : Binary64 := ofMagnitude negative infiniteMagnitude

/-- The one number that is no number. -/
def nan : Binary64 := ⟨0x7FF8000000000000⟩

/-! ## Rounding -/

/-- A quotient rounded to the nearest integer; a tie goes to the even one. -/
def roundDiv (num den : Nat) : Nat :=
  let quotient := num / den
  let twice := 2 * (num % den)
  if twice < den then quotient
  else if den < twice then quotient + 1
  else if quotient % 2 = 0 then quotient else quotient + 1

/-- A rounded quotient is above the exact one by half a unit at most. -/
theorem two_mul_roundDiv_le (num den : Nat) : 2 * (roundDiv num den * den) ≤ 2 * num + den := by
  have hdiv : den * (num / den) + num % den = num := Nat.div_add_mod num den
  have hcomm : (num / den) * den = den * (num / den) := Nat.mul_comm _ _
  have hsucc : (num / den + 1) * den = den * (num / den) + den := by
    rw [Nat.add_mul, Nat.one_mul, hcomm]
  unfold roundDiv
  dsimp only
  split
  · omega
  · split
    · omega
    · split <;> omega

/-- The number nearest to `num / den`.  The scale is chosen so that the rounded mantissa has
fifty-three bits, but never below the least scale; a mantissa that rounds up to the next power of
two carries into the exponent by itself, and past the largest exponent lies infinity. -/
def nearest (negative : Bool) (num den : Nat) : Binary64 :=
  if num = 0 then zero negative
  else
    -- the quotient lies between `2 ^ (top - 1)` and `2 ^ (top + 1)`
    let top : Int := (num.log2 : Int) - den.log2
    let reached := den * pow2 top.toNat ≤ num * pow2 (-top).toNat
    let scale : Int := max (-1074) (if reached then top - 52 else top - 53)
    let mantissa := roundDiv (num * pow2 (-scale).toNat) (den * pow2 scale.toNat)
    ofMagnitude negative (min infiniteMagnitude ((scale + 1074).toNat * pow2 52 + mantissa))

/-- The number nearest to an integer. -/
def ofInt (n : Int) : Binary64 := nearest (n < 0) n.natAbs 1

/-- The product, rounded once. -/
def mul (x y : Binary64) : Binary64 :=
  match x.shape, y.shape with
  | .nan, _ | _, .nan => nan
  | .infinite a, .infinite b => infinity (a != b)
  -- zero times infinity is no number
  | .infinite a, .finite b m _ | .finite a m _, .infinite b => if m = 0 then nan else infinity (a != b)
  | .finite a m p, .finite b n q =>
    let scale := p + q
    nearest (a != b) (m * n * pow2 scale.toNat) (pow2 (-scale).toNat)

/-! ## Exact values -/

/-- The exact value of a finite number as a quotient: a signed numerator over a power of two. -/
def ratio? (x : Binary64) : Option (Int × Nat) :=
  match x.shape with
  | .finite negative m q =>
    let num : Int := (m * pow2 q.toNat : Nat)
    some (if negative then -num else num, pow2 (-q).toNat)
  | _ => none

/-- The integer that a number is, if it is one. -/
def toInt? (x : Binary64) : Option Int :=
  match x.ratio? with
  | some (num, den) => if num % den = 0 then some (num / den) else none
  | none => none

end Binary64

end UiSurface
