import UiSurface.Text.CombiningClass
import UiSurface.Text.Composite

/-!
# Composed — the shortest way to write what looks alike

A letter with marks can be written in several ways.  To compose a text is to take every composite
apart, to put marks in the order of their classes, and to join each character with the marks behind
it as far as there are composites for them.  Code points are numbers here, so half a pair may stand
among them.
-/

namespace UiSurface.Text

/-! ## Taking apart -/

/-- The characters that a code point stands for; its first part is taken apart so many times. -/
def parts : Nat → Nat → List Nat
  | 0, n => [n]
  | depth + 1, n => match compositeParts? n with
    | some (first, second) => parts depth first ++ [second]
    | none => [n]

def decomposed (ns : List Nat) : List Nat := ns.flatMap (parts 3)

/-! ## Order of marks -/

/-- Puts a code point in front of marks, behind those of a lower class. -/
def insertMark (n : Nat) : List Nat → List Nat
  | [] => [n]
  | m :: ms =>
    if 0 < combiningClass m ∧ combiningClass m < combiningClass n then m :: insertMark n ms
    else n :: m :: ms

def ordered (ns : List Nat) : List Nat := ns.foldr insertMark []

/-! ## Joining -/

/-- Joins a character with what follows it, behind the marks that it was not joined with,
backwards. -/
def joinFrom (start : Nat) (passed : List Nat) : List Nat → List Nat
  | [] => start :: passed.reverse
  | n :: ns =>
    -- a mark is out of reach behind one of its own class or of a higher one
    let reached := passed.head?.all (fun m => combiningClass m < combiningClass n)
    match if reached then composite? start n else none with
    | some whole => joinFrom whole passed ns
    | none =>
      if combiningClass n = 0 then start :: passed.reverse ++ joinFrom n [] ns
      else joinFrom start (n :: passed) ns

def joined : List Nat → List Nat
  | [] => []
  | n :: ns => joinFrom n [] ns

/-! ## Composed texts -/

/-- Whether a text is written in the shortest way. -/
def isComposed (ns : List Nat) : Bool :=
  ns.all (fun n => !uncomposedRanges.holds n) && joined (ordered (decomposed ns)) == ns

end UiSurface.Text
