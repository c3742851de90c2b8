import UiSurface.Number.Basic
import UiSurface.Text.Blank
import UiSurface.Text.DecimalDigit

/-!
# Numerals — numbers as they are written

The parts of a written number, and the number they stand for.  A numeral without a point and
without an exponent is an integer, any other is a double.  An integer of more than 4300 digits is
refused, whoever writes it; a double has no such limit.

Main lemma: `integer_eq_error_iff` (when an integer is refused).
-/

namespace UiSurface

/-- An integer was refused for the number of its digits. -/
structure TooManyDigits where
  count : Nat
deriving DecidableEq

namespace TooManyDigits

/-- The most digits an integer may be written with. -/
def limit : Nat := 4300

def message (fault : TooManyDigits) : String :=
  "Exceeds the limit (4300 digits) for integer string conversion: value has " ++
    Number.intText fault.count ++ " digits; use sys.set_int_max_str_digits() to increase the limit"

end TooManyDigits

/-- The parts of a numeral: digits of any script before the point, after it, and in the
exponent. -/
structure Numeral where
  negative : Bool
  whole : List Char
  fraction : List Char
  exponentNegative : Bool
  exponent : List Char
deriving DecidableEq

namespace Numeral

/-- A run of digits as an integer. -/
def integer (negative : Bool) (digits : List Char) : Except TooManyDigits Int :=
  if TooManyDigits.limit < digits.length then .error ⟨digits.length⟩
  else
    let value : Int := Text.digitsValue digits
    .ok (if negative then -value else value)

/-- An integer is refused for the number of its digits and nothing else. -/
theorem integer_eq_error_iff (negative : Bool) (digits : List Char) (fault : TooManyDigits) :
    integer negative digits = .error fault ↔
      TooManyDigits.limit < digits.length ∧ fault = ⟨digits.length⟩ := by
  unfold integer
  split
  · rename_i h
    simp [h, eq_comm]
  · rename_i h
    simp [h]

/-- The decimal that a numeral stands for, without its sign. -/
def decimal (n : Numeral) : Decimal :=
  let exponent : Int := Text.digitsValue n.exponent
  ⟨Text.digitsValue (n.whole ++ n.fraction),
    (if n.exponentNegative then -exponent else exponent) - n.fraction.length⟩

def toBinary64 (n : Numeral) : Binary64 := n.decimal.round n.negative

/-! ## Reading a numeral that fills a text -/

def takeSign : List Char → Bool × List Char
  | '-' :: cs => (true, cs)
  | '+' :: cs => (false, cs)
  | cs => (false, cs)

/-- Reads an exponent that fills the rest: nothing, or `e`, an optional sign and digits. -/
def takeExponent? : List Char → Option (Bool × List Char)
  | [] => some (false, [])
  | c :: cs =>
    let (negative, digits) := takeSign cs
    if (c == 'e' || c == 'E') && !digits.isEmpty && digits.all Text.isDecimalDigit then
      some (negative, digits)
    else none

/-- Reads a decimal numeral that fills the text: an optional sign, digits with an optional point
among or around them, an optional exponent. -/
def ofChars? (cs : List Char) : Option Numeral :=
  let (negative, body) := takeSign cs
  let whole := body.takeWhile Text.isDecimalDigit
  match body.dropWhile Text.isDecimalDigit with
  | '.' :: rest =>
    let fraction := rest.takeWhile Text.isDecimalDigit
    -- a point alone is no numeral
    if whole.isEmpty && fraction.isEmpty then none
    else (takeExponent? (rest.dropWhile Text.isDecimalDigit)).map
      fun e => ⟨negative, whole, fraction, e.1, e.2⟩
  | rest =>
    if whole.isEmpty then none
    else (takeExponent? rest).map fun e => ⟨negative, whole, [], e.1, e.2⟩

/-- Reads an integer numeral that fills the text: an optional sign and digits. -/
def integerParts? (cs : List Char) : Option (Bool × List Char) :=
  let (negative, digits) := takeSign cs
  if !digits.isEmpty && digits.all Text.isDecimalDigit then some (negative, digits) else none

end Numeral

end UiSurface
