import UiSurface.Text.Lines
import UiSurface.Web.Domain.Label

/-!
# Domain names — labels between full stops

A name is cut at full stops of four kinds into labels, and put together again with the common one.
One full stop may end it.
-/

namespace UiSurface.Domain.Name

/-- What is wrong with a name. -/
inductive Fault where
  | tooLong
  | label (fault : Label.Fault)
deriving DecidableEq

def Fault.message : Fault → String
  | tooLong => "Domain too long"
  | label fault => fault.message

def stop : Nat := 0x2E

/-- Any full stop by the common one. -/
def unifyStop (n : Nat) : Nat := if n = 0x3002 ∨ n = 0xFF0E ∨ n = 0xFF61 then stop else n

/-- The labels of a name, and whether a full stop ends it. -/
def labels (name : List Nat) : List (List Nat) × Bool :=
  let pieces := Text.splitAt stop (name.map unifyStop)
  -- a name that is nothing but one piece ends with that piece
  if 1 < pieces.length ∧ pieces.getLast? = some [] then (pieces.dropLast, true) else (pieces, false)

/-- A name with each label in another form. -/
def mapLabels (form : List Nat → Except Label.Fault (List Nat)) (name : List Nat) :
    Except Fault (List Nat) :=
  if 254 < name.length then .error .tooLong
  else
    let (pieces, isEnded) := labels name
    (pieces.mapM form).mapError .label |>.map fun pieces =>
      Text.joinWith stop (pieces ++ if isEnded then [[]] else [])

def decode (name : List Nat) : Except Fault (List Nat) := mapLabels Label.ofAscii name

def encode (name : List Nat) : Except Fault (List Nat) := do
  let ascii ← mapLabels Label.toAscii name
  -- the full stop at the end is not counted
  if (if ascii.getLast? = some stop then 254 else 253) < ascii.length then .error .tooLong
  else .ok ascii

end UiSurface.Domain.Name
