import UiSurface.Text.Mark
import UiSurface.Text.Printable

/-!
# Direction — labels of domain names that are written from right to left

A label that holds a letter of a script from right to left, or an Arabic number, has one direction:
that of its first character.  It holds no letter of the other direction, numbers of one kind if it
runs from right to left, and ends, marks aside, with a letter or a number.
-/

namespace UiSurface.Domain

/-- How a character is written. -/
inductive Direction where
  | left
  | right
  | arabicLetter
  | arabicNumber
  | europeanNumber
  /-- it goes with what it stands beside -/
  | neutral
  /-- it goes with the character before it -/
  | mark
deriving DecidableEq

namespace Direction

/-- Runs of characters that may stand in a label and are neither letters from left to right nor
marks, together with the signs that Unicode counts for letters although they are marks (Unicode 14).
-/
def runs : List (Nat × Nat × Direction) :=
  [(0x2D, 0x2D, .neutral), (0x30, 0x39, .europeanNumber), (0xB7, 0xB7, .neutral),
   (0x2B9, 0x2BA, .neutral), (0x2C6, 0x2CF, .neutral), (0x2EC, 0x2EC, .neutral),
   (0x375, 0x375, .neutral), (0x5D0, 0x5F4, .right), (0x620, 0x64A, .arabicLetter),
   (0x660, 0x669, .arabicNumber), (0x66E, 0x66F, .arabicLetter), (0x671, 0x6D5, .arabicLetter),
   (0x6E5, 0x6E6, .arabicLetter), (0x6EE, 0x6EF, .arabicLetter), (0x6F0, 0x6F9, .europeanNumber),
   (0x6FA, 0x710, .arabicLetter), (0x712, 0x72F, .arabicLetter), (0x74D, 0x7A5, .arabicLetter),
   (0x7B1, 0x7B1, .arabicLetter), (0x7C0, 0x7EA, .right), (0x7F4, 0x7F5, .right),
   (0x800, 0x815, .right), (0x81A, 0x81A, .right), (0x824, 0x824, .right), (0x828, 0x828, .right),
   (0x840, 0x858, .right), (0x860, 0x88E, .arabicLetter), (0x8A0, 0x8C9, .arabicLetter),
   (0xCBF, 0xCBF, .left), (0xCC6, 0xCC6, .left), (0x200C, 0x200D, .neutral),
   (0x2E2F, 0x2E2F, .neutral), (0x30FB, 0x30FB, .neutral), (0xA67F, 0xA67F, .neutral),
   (0xA717, 0xA71F, .neutral), (0xA788, 0xA788, .neutral), (0xFE73, 0xFE73, .arabicLetter),
   (0x10800, 0x10939, .right), (0x10980, 0x10A00, .right), (0x10A10, 0x10A35, .right),
   (0x10A60, 0x10AE4, .right), (0x10B00, 0x10CF2, .right), (0x10D00, 0x10D23, .arabicLetter),
   (0x10D30, 0x10D39, .arabicNumber), (0x10E80, 0x10EA9, .right), (0x10EB0, 0x10EB1, .right),
   (0x10F00, 0x10F27, .right), (0x10F30, 0x10F45, .arabicLetter), (0x10F70, 0x10F81, .right),
   (0x10FB0, 0x10FF6, .right), (0x11A07, 0x11A08, .left), (0x11C3F, 0x11C3F, .left),
   (0x1E800, 0x1E8C4, .right), (0x1E922, 0x1E943, .right), (0x1E94B, 0x1E959, .right)]

/-- The direction of a character that may stand in a label; none of one that is not assigned. -/
def of? (n : Nat) : Option Direction :=
  match runs.find? (fun run => run.1 ≤ n && n ≤ run.2.1) with
  | some run => some run.2.2
  | none =>
    if Text.unprintableRanges.holds n then none
    else if Text.nonspacingRanges.holds n then some .mark
    else some .left

/-- Why the directions of a label do not go together. -/
inductive Fault where
  | unknown (position : Nat)
  | start
  | strayLeft (position : Nat)
  | strayRight (position : Nat)
  | mixedNumbers
  | ending
deriving DecidableEq

/-- Whether a direction makes a label one that has a direction at all. -/
def isFromRight (d : Direction) : Bool := d == .right || d == .arabicLetter || d == .arabicNumber

def isNumber (d : Direction) : Bool := d == .arabicNumber || d == .europeanNumber

/-- The first fault of a label from right to left, from a position on, behind numbers of a kind. -/
def rightFault? (numbers : Option Direction) (position : Nat) : List Direction → Option Fault
  | [] => none
  | d :: ds =>
    if d = .left then some (.strayLeft position)
    else if isNumber d then
      if numbers.any (· != d) then some .mixedNumbers else rightFault? (some d) (position + 1) ds
    else rightFault? numbers (position + 1) ds

/-- The first fault of a label from left to right. -/
def leftFault? (ds : List Direction) : Option Fault :=
  (ds.findIdx? isFromRight).map (fun i => .strayRight (i + 1))

/-- The fault of a label that does not end as it must. -/
def endFault? (mayEnd : Direction → Bool) (ds : List Direction) : Option Fault :=
  if (ds.reverse.find? (· != .mark)).any mayEnd then none else some .ending

/-- The fault of a label by the directions of its characters. -/
def faultOf? (ds : List Direction) : Option Fault :=
  if !ds.any isFromRight then none
  else match ds.head? with
    | some .right | some .arabicLetter =>
      (rightFault? none 1 ds).orElse fun _ => endFault? (fun d => isFromRight d || isNumber d) ds
    | some .left =>
      (leftFault? ds).orElse fun _ => endFault? (fun d => d == .left || d == .europeanNumber) ds
    | _ => some .start

def fault? (label : List Nat) : Option Fault :=
  -- a character of no direction is a fault in any label
  match label.findIdx? (fun n => (of? n).isNone) with
  | some i => some (.unknown (i + 1))
  | none => faultOf? (label.filterMap of?)

end Direction

end UiSurface.Domain
