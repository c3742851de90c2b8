import UiSurface.Number.Numeral

/-!
# Grouped numerals — numbers as a person writes them

In a setting a numeral may have white space around it and single underscores between its digits.
The white space is that of Unicode but for the four separators U+001C to U+001F.  A number may also
be `inf`, `infinity` or `nan`, in any case of letters.
-/

namespace UiSurface.Numeral

/-! ## White space and underscores -/

/-- White space that may stand around a numeral. -/
def isMargin (c : Char) : Bool := Text.isBlank c && !('\x1c' ≤ c && c ≤ '\x1f')

/-- A text without the margin at either end. -/
def trimMargin (cs : List Char) : List Char :=
  Text.dropEndWhile isMargin (cs.dropWhile isMargin)

/-- Takes out the underscores, if each stands between two digits.  `afterDigit` says whether a digit
stands just before the text. -/
def ungroupFrom? (afterDigit : Bool) : List Char → Option (List Char)
  | [] => some []
  | '_' :: cs =>
    if afterDigit && cs.head?.any Text.isDecimalDigit then ungroupFrom? false cs else none
  | c :: cs => (ungroupFrom? (Text.isDecimalDigit c) cs).map (c :: ·)

/-- Takes out the underscores of a text, if each stands between two digits. -/
def ungroup? (cs : List Char) : Option (List Char) := ungroupFrom? false cs

/-! ## Integers -/

/-- Why a text is no integer. -/
inductive IntegerFault where
  | malformed
  | digits (fault : TooManyDigits)
deriving DecidableEq

/-- Whether a character belongs to the digits of an integer. -/
def isGroupedDigit (c : Char) : Bool := Text.isDecimalDigit c || c == '_'

/-- Reads an integer.  The digits are counted before what stands behind them is looked at. -/
def groupedInteger (cs : List Char) : Except IntegerFault Int :=
  let (negative, body) := takeSign (trimMargin cs)
  match ungroup? (body.takeWhile isGroupedDigit) with
  | none => .error .malformed
  | some digits => match integer negative digits with
    | .error fault => .error (.digits fault)
    -- too many digits are a fault even where something else stands behind them
    | .ok n =>
      if digits.isEmpty || !(body.dropWhile isGroupedDigit).isEmpty then .error .malformed else .ok n

/-! ## Doubles -/

/-- A number that is written as a word. -/
def named? (cs : List Char) : Option Binary64 :=
  let (negative, word) := takeSign cs
  let word := String.ofList (word.map Char.toLower)
  if word = "inf" ∨ word = "infinity" then some (.infinity negative)
  else if word = "nan" then some .nan
  else none

def groupedFloat? (cs : List Char) : Option Binary64 :=
  (ungroup? (trimMargin cs)).bind fun cs => (named? cs).orElse fun _ => (ofChars? cs).map toBinary64

end UiSurface.Numeral
