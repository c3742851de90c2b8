import UiSurface.Number.Decimal

/-!
# Numbers — integers of any size and double-precision numbers, and their texts

The two kinds are kept apart: `1` and `1.0` are different numbers and have different texts.  An
integer is written in decimal.  A double is written with the fewest digits that read back,
positionally when its leading digit stands for 10 ^ -4 up to 10 ^ 15, otherwise with an exponent of
at least two digits.
-/

namespace UiSurface

/-- An integer or a double. -/
inductive Number where
  | int (n : Int)
  | float (x : Binary64)
deriving DecidableEq, Inhabited

namespace Number

/-- What a format decides about doubles that have no digits. -/
structure FloatNames where
  nan : String
  infinity : String

def FloatNames.plain : FloatNames := ⟨"nan", "inf"⟩

def FloatNames.json : FloatNames := ⟨"NaN", "Infinity"⟩

/-! ## Integers -/

/-- The decimal digits of a natural number. -/
def natDigits (n : Nat) : List Char := Nat.toDigits 10 n

def intText (n : Int) : String :=
  String.ofList (if n < 0 then '-' :: natDigits n.natAbs else natDigits n.natAbs)

/-! ## Doubles -/

/-- The exponent with its sign, in at least two digits. -/
def exponentDigits (e : Int) : List Char :=
  let digits := natDigits e.natAbs
  (if e < 0 then '-' else '+') :: (if digits.length < 2 then '0' :: digits else digits)

/-- Lays out the digits of a decimal. -/
def layOut (d : Decimal) : List Char :=
  let digits := natDigits d.digits
  let lead : Int := d.exponent + digits.length - 1
  if -4 ≤ lead ∧ lead < 16 then
    if 0 ≤ d.exponent then digits ++ List.replicate d.exponent.toNat '0' ++ ['.', '0']
    else if 0 ≤ lead then digits.take (lead.toNat + 1) ++ '.' :: digits.drop (lead.toNat + 1)
    else ['0', '.'] ++ List.replicate (-lead - 1).toNat '0' ++ digits
  else
    digits.take 1 ++ (if digits.length = 1 then [] else '.' :: digits.drop 1) ++
      'e' :: exponentDigits lead

/-- A double under the names of a format. -/
def floatText (names : FloatNames) (x : Binary64) : String :=
  match x.shape with
  | .nan => names.nan
  | .infinite negative => if negative then "-" ++ names.infinity else names.infinity
  | .finite negative m q =>
    let body := if m = 0 then ['0', '.', '0'] else layOut (Decimal.shortest m q)
    String.ofList (if negative then '-' :: body else body)

/-- A number under the names of a format. -/
def text (names : FloatNames) : Number → String
  | int n => intText n
  | float x => floatText names x

/-! ## Comparison and arithmetic -/

/-- A number as an exact value: an integer is itself over one. -/
def ratio? : Number → Option (Int × Nat)
  | int n => some (n, 1)
  | float x => x.ratio?

/-- Where a number that is neither finite nor NaN stands. -/
def infiniteSign? : Number → Option Bool
  | int _ => none
  | float x => match x.shape with
    | .infinite negative => some negative
    | _ => none

/-- Whether the first number is below the second; NaN is below nothing and nothing is below it. -/
def below (a b : Number) : Bool :=
  match a.ratio?, b.ratio? with
  | some (m, p), some (n, q) => m * q < n * p
  | some _, none => b.infiniteSign? == some false
  | none, some _ => a.infiniteSign? == some true
  | none, none => a.infiniteSign? == some true && b.infiniteSign? == some false

def square : Number → Number
  | int n => int (n * n)
  | float x => float (x.mul x)

/-- The smaller of two numbers; the first unless the second is below it. -/
def least (a b : Number) : Number := if below b a then b else a

/-- A number as a double; an integer too large for one has none. -/
def toBinary64? : Number → Option Binary64
  | float x => some x
  | int n => match (Binary64.ofInt n).shape with
    | .infinite _ => none
    | _ => some (Binary64.ofInt n)

end Number

end UiSurface
