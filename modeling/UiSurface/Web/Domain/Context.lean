import UiSurface.Text.CombiningClass
import UiSurface.Text.Joining
import UiSurface.Text.Printable
import UiSurface.Text.Script
import UiSurface.Web.Domain.Alphabet

/-!
# Context — characters that may stand only beside certain others

The two joiners stand behind a virama, and the one that keeps letters apart also between letters
that would join; a character without a name decides nothing.  Some signs belong beside letters of
their script.
-/

namespace UiSurface.Domain

/-- How a character may be used in a label. -/
inductive Use where
  | anywhere
  /-- a joiner in its place -/
  | joiner
  | misplacedJoiner
  /-- a joiner behind a character without a name -/
  | undecidedJoiner
  /-- a sign beside its letters -/
  | sign
  | misplacedSign
  | never
deriving DecidableEq

namespace Use

def isJoiner (n : Nat) : Bool := n == 0x200C || n == 0x200D

/-- Whether a code point belongs to a character with a name (Unicode 14).  Tangut ideographs have
none. -/
def isNamed (n : Nat) : Bool :=
  isJoiner n || !(Text.unprintableRanges.holds n || (0x17000 ≤ n && n ≤ 0x187F7) ||
    (0x18D00 ≤ n && n ≤ 0x18D08))

/-- The use of a joiner, by what is before, backwards, and behind. -/
def ofJoiner (n : Nat) (before after : List Nat) : Use :=
  if before.head?.any Text.isVirama then .joiner
  else if before.head?.any (fun m => Text.combiningClass m == 0 && !isNamed m) then .undecidedJoiner
  else if n == 0x200C && Text.Joining.joinsAcross before after then .joiner
  else .misplacedJoiner

/-- Whether a code point is that of an Arabic digit of the first kind. -/
def isArabicDigit (n : Nat) : Bool := 0x660 ≤ n && n ≤ 0x669

/-- Whether a code point is that of an Arabic digit of the second kind. -/
def isEasternDigit (n : Nat) : Bool := 0x6F0 ≤ n && n ≤ 0x6F9

/-- Whether a sign stands in its place, by what is before, backwards, and behind; none if a code
point is that of no such sign. -/
def signFits? (n : Nat) (before after : List Nat) : Option Bool :=
  let all := before ++ after
  if n = 0xB7 then some (before.head? = some 0x6C && after.head? = some 0x6C)
  else if n = 0x375 then some (after.head?.any Text.Script.greek.has)
  else if n = 0x5F3 ∨ n = 0x5F4 then some (before.head?.any Text.Script.hebrew.has)
  else if n = 0x30FB then
    some (all.any (fun m => m != 0x30FB &&
      (Text.Script.hiragana.has m || Text.Script.katakana.has m || Text.Script.han.has m)))
  -- the two kinds of Arabic digits look alike and are not mixed
  else if isArabicDigit n then some (!all.any isEasternDigit)
  else if isEasternDigit n then some (!all.any isArabicDigit)
  else none

/-- The use of a code point, by what is before, backwards, and behind. -/
def of (n : Nat) (before after : List Nat) : Use :=
  if isPlain n then .anywhere
  else if isJoiner n then ofJoiner n before after
  else match signFits? n before after with
    | some true => .sign
    | some false => .misplacedSign
    | none => .never

end Use

end UiSurface.Domain
