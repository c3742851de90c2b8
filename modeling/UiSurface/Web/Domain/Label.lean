import UiSurface.Number.Basic
import UiSurface.Text.Composed
import UiSurface.Text.Mark
import UiSurface.Text.Quoted
import UiSurface.Web.Domain.Context
import UiSurface.Web.Domain.Direction
import UiSurface.Web.Domain.Punycode

/-!
# Labels — what stands between two full stops of a domain name

A label holds characters of its alphabet, each in its place, composed, in one direction, and with
hyphens only inside.  A label with characters beyond ASCII has a second form in ASCII, which begins
with a sign of its own.
-/

namespace UiSurface.Domain.Label

/-- What is wrong with a label.  Positions begin with one. -/
inductive Fault where
  | empty
  | tooLong
  | notComposed
  | innerHyphens
  | edgeHyphen
  | initialMark
  | joiner (n position : Nat) (label : List Nat)
  /-- whether the joiner fits is not known -/
  | undecidedJoiner (n position : Nat) (label : List Nat)
  | sign (n position : Nat) (label : List Nat)
  | never (n position : Nat) (label : List Nat)
  | direction (fault : Direction.Fault) (label : List Nat)
  /-- nothing stands behind the sign of the second form -/
  | noContent
  | finalHyphen
  | undecodable
  /-- the label has another second form -/
  | notCanonical
deriving DecidableEq

/-! ## Texts of faults -/

/-- A code point by its number. -/
def pointName (n : Nat) : String :=
  let digits := Text.hexDigits (if n < 0x10000 then 4 else if n < 0x100000 then 5 else 6) n
  "U+" ++ String.ofList (digits.map Char.toUpper)

def quote (label : List Nat) : String := Text.quote (String.ofList (label.map Text.ofPoint))

/-- The text of a fault of direction. -/
def directionText (label : List Nat) : Direction.Fault → String
  | .unknown position =>
    "Unknown directionality in label " ++ quote label ++ " at position " ++ Number.intText position
  | .start => "First codepoint in label " ++ quote label ++ " must be directionality L, R or AL"
  | .strayLeft position =>
    "Invalid direction for codepoint at position " ++ Number.intText position ++
      " in a right-to-left label"
  | .strayRight position =>
    "Invalid direction for codepoint at position " ++ Number.intText position ++
      " in a left-to-right label"
  | .mixedNumbers => "Can not mix numeral types in a right-to-left label"
  | .ending => "Label ends with illegal codepoint directionality"

def Fault.message : Fault → String
  | empty => "Empty Label"
  | tooLong => "Label too long"
  | notComposed => "Label must be in Normalization Form C"
  | innerHyphens => "Label has disallowed hyphens in 3rd and 4th position"
  | edgeHyphen => "Label must not start or end with a hyphen"
  | initialMark => "Label begins with an illegal combining character"
  | joiner n position label =>
    "Joiner " ++ pointName n ++ " not allowed at position " ++ Number.intText position ++ " in " ++
      quote label
  | undecidedJoiner n position label =>
    "Unknown codepoint adjacent to joiner " ++ pointName n ++ " at position " ++
      Number.intText position ++ " in " ++ quote label
  | sign n position label =>
    "Codepoint " ++ pointName n ++ " not allowed at position " ++ Number.intText position ++
      " in " ++ quote label
  | never n position label =>
    "Codepoint " ++ pointName n ++ " at position " ++ Number.intText position ++ " of " ++
      quote label ++ " not allowed"
  | direction fault label => directionText label fault
  | noContent => "Malformed A-label, no Punycode eligible content found"
  | finalHyphen => "A-label must not end with a hyphen"
  | undecodable => "Invalid A-label"
  | notCanonical => "A-label is not the canonical Punycode encoding of its U-label"

/-! ## Checking -/

def hyphen : Nat := 0x2D

/-- The fault of the first character that may not stand where it does. -/
def useFault? (label before : List Nat) : List Nat → Option Fault
  | [] => none
  | n :: after =>
    let position := before.length + 1
    match Use.of n before after with
    | .anywhere | .joiner | .sign => useFault? label (n :: before) after
    | .misplacedJoiner => some (.joiner n position label)
    | .undecidedJoiner => some (.undecidedJoiner n position label)
    | .misplacedSign => some (.sign n position label)
    | .never => some (.never n position label)

def fault? (label : List Nat) : Option Fault :=
  if label.isEmpty then some .empty
  else if !Text.isComposed label then some .notComposed
  -- hyphens in these places are left to signs such as that of the second form
  else if (label.drop 2).take 2 = [hyphen, hyphen] then some .innerHyphens
  else if label.head? = some hyphen ∨ label.getLast? = some hyphen then some .edgeHyphen
  else if label.head?.any Text.isMark then some .initialMark
  else (useFault? label [] label).orElse fun _ =>
    (Direction.fault? label).map (fun fault => .direction fault label)

/-! ## The two forms -/

/-- The sign of the second form. -/
def asciiSign : List Nat := "xn--".toList.map Char.toNat

def lowerAscii (n : Nat) : Nat := if 0x41 ≤ n ∧ n ≤ 0x5A then n + 0x20 else n

/-- A label of no fault. -/
def checked (label : List Nat) : Except Fault (List Nat) :=
  match fault? label with
  | some fault => .error fault
  | none => .ok label

/-- Reads the second form, without its sign.  A label has one second form and no other is read. -/
def readContent (content : List Nat) : Except Fault (List Nat) :=
  if content.isEmpty then .error .noContent
  else if content.getLast? = some hyphen then .error .finalHyphen
  else match Punycode.decode? content with
    | some label => do
      let label ← checked label
      if Punycode.encode label = content then .ok label else .error .notCanonical
    | none => .error .undecodable

/-- The first form of a label of ASCII. -/
def ofAscii (label : List Nat) : Except Fault (List Nat) :=
  let label := label.map lowerAscii
  if asciiSign.isPrefixOf label then readContent (label.drop asciiSign.length) else checked label

/-- A label that is not too long for a domain name. -/
def measured (label : List Nat) : Except Fault (List Nat) :=
  if 63 < label.length then .error .tooLong else .ok label

/-- A label in ASCII. -/
def toAscii (label : List Nat) : Except Fault (List Nat) := do
  if label.all (· < 0x80) then
    -- what is in ASCII already has to be sound as well
    let _ ← ofAscii label
    measured label
  else
    let label ← checked label
    measured (asciiSign ++ Punycode.encode label)

end UiSurface.Domain.Label
