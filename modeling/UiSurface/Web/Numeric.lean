import UiSurface.Text.Lines
import UiSurface.Web.Percent

/-!
# Numeric hosts — addresses that are numbers

A short address is four numbers below 256 with full stops between them.  A long address is eight
groups of hexadecimal digits with colons between them; two colons stand for groups of zero, once,
and the last two groups may be a short address.  A zone may follow behind a per-cent sign.
-/

namespace UiSurface.Numeric

/-! ## Short addresses -/

def valueOf (digits : List Char) : Nat := digits.foldl (fun n c => 10 * n + (c.toNat - 48)) 0

/-- Whether a text is a number of a short address.  No zero stands in front of another digit. -/
def isOctet (cs : List Char) : Bool :=
  !cs.isEmpty && cs.all Char.isDigit && cs.length ≤ 3 && (cs == ['0'] || cs.head? != some '0') &&
    valueOf cs ≤ 255

def isShort (cs : List Char) : Bool :=
  let numbers := Text.splitAt '.' cs
  numbers.length == 4 && numbers.all isOctet

/-- Whether a text looks like a short address: four runs of digits with full stops between them. -/
def isFourNumbers (cs : List Char) : Bool :=
  let numbers := Text.splitAt '.' cs
  numbers.length == 4 && numbers.all (fun run => !run.isEmpty && run.all Char.isDigit)

/-! ## Long addresses -/

/-- Whether a text is a group of a long address. -/
def isGroup (cs : List Char) : Bool :=
  !cs.isEmpty && cs.length ≤ 4 && cs.all (fun c => (Percent.digit? c).isSome)

/-- The groups with a short address at the end written as two groups; none if it is not sound. -/
def unmix? (groups : List (List Char)) : Option (List (List Char)) :=
  match groups.getLast? with
  | some last =>
    if !last.contains '.' then some groups
    else if isShort last then some (groups.dropLast ++ [['0'], ['0']])
    else none
  | none => some groups

/-- How many groups stand on one side of two colons; none if they are not sound. -/
def countGroups? (side : List (List Char)) : Option Nat :=
  -- at the end of the address there is nothing beside the two colons
  if side = [[]] then some 0 else if side.all isGroup then some side.length else none

/-- Whether groups make a long address. -/
def areGroups (groups : List (List Char)) : Bool :=
  -- the ends do not count: an empty group there is no sign of two colons
  match (groups.drop 1).dropLast.findIdx? List.isEmpty with
  | none => groups.length == 8 && groups.all isGroup
  | some i => match countGroups? (groups.take (i + 1)), countGroups? (groups.drop (i + 2)) with
    | some before, some after => before + after < 8
    | _, _ => false

/-- Whether what follows a long address is a zone, or nothing. -/
def isZone : List Char → Bool
  | [] => true
  | _ :: zone => !zone.isEmpty && !zone.contains '%' && !zone.contains '/'

def isLong (cs : List Char) : Bool :=
  isZone (cs.dropWhile (· != '%')) &&
    (unmix? (Text.splitAt ':' (cs.takeWhile (· != '%')))).any areGroups

end UiSurface.Numeric
