/-!
# Case runs — characters that change case alike

Most characters move by a fixed distance when their case changes, and neighbours move alike: one
after the other, or every second one where small and capital letters take turns.
-/

namespace UiSurface.Text

/-- Characters `first, first + step, …, last` whose other case lies `shift` code points away. -/
structure CaseRun where
  first : Nat
  last : Nat
  step : Nat
  shift : Int

namespace CaseRun

/-- Whether a code point belongs to the run. -/
def holds (run : CaseRun) (n : Nat) : Bool :=
  run.first ≤ n && n ≤ run.last && (n - run.first) % run.step == 0

/-- The other case of a character, by the run that it belongs to; none if it belongs to no run. -/
def move? (runs : List CaseRun) (c : Char) : Option Char :=
  (runs.find? (fun run => run.holds c.toNat)).map
    (fun run => Char.ofNat ((c.toNat : Int) + run.shift).toNat)

end CaseRun

end UiSurface.Text
