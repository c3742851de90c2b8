import UiSurface.Text.CodePoint
import UiSurface.Text.Printable

/-!
# Quoted — a text between quotes, as messages show it

The quote is `'`, unless the text holds `'` and no `"`.  Inside, the quote and the backslash are
escaped, tab, line feed and carriage return have a letter, and what is not printable is written by
its code point.
-/

namespace UiSurface.Text

/-- The digit of a value below sixteen, in lower case. -/
def hexDigit (n : Nat) : Char := if n < 10 then Char.ofNat (48 + n) else Char.ofNat (87 + n)

/-- The last `width` hexadecimal digits of a number. -/
def hexDigits : Nat → Nat → List Char
  | 0, _ => []
  | width + 1, n => hexDigits width (n / 16) ++ [hexDigit (n % 16)]

namespace Quoted

/-- Which quote a text is shown in. -/
def mark (cs : List Char) : Char := if cs.contains '\'' && !cs.contains '"' then '"' else '\''

/-- A code point by its number, in the shortest of the three forms. -/
def codePoint (n : Nat) : List Char :=
  if n ≤ 0xFF then '\\' :: 'x' :: hexDigits 2 n
  else if n ≤ 0xFFFF then '\\' :: 'u' :: hexDigits 4 n
  else '\\' :: 'U' :: hexDigits 8 n

/-- One character inside the quotes. -/
def escape (quoteMark c : Char) : List Char :=
  if c = quoteMark || c = '\\' then ['\\', c]
  else if c = '\t' then ['\\', 't']
  else if c = '\n' then ['\\', 'n']
  else if c = '\r' then ['\\', 'r']
  else if isPrintable c then [c]
  else codePoint (point c)

end Quoted

/-- A text in quotes. -/
def quote (s : String) : String :=
  let cs := s.toList
  -- one mark for the whole text, chosen before anything is escaped
  let q := Quoted.mark cs
  String.ofList (q :: cs.flatMap (Quoted.escape q) ++ [q])

/-- A list of texts in quotes, between brackets. -/
def quoteList (ss : List String) : String :=
  "[" ++ String.intercalate ", " (ss.map quote) ++ "]"

end UiSurface.Text
