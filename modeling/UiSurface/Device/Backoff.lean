import UiSurface.Number.Basic

/-!
# Back-off — how long to wait before trying again

The wait grows with the square of the number of failures, up to a cap.
-/

namespace UiSurface.Backoff

/-- A wait that is an integer too large for a double. -/
structure TooLarge where
deriving DecidableEq

def TooLarge.message (_ : TooLarge) : String := "int too large to convert to float"

/-- The seconds to wait after a number of failures (`reconnect_delay`).  Where the square and the cap
are equal, or one of them is not a number, the square stands. -/
def delay (failures cap : Number) : Except TooLarge Binary64 :=
  match (Number.least failures.square cap).toBinary64? with
  | some seconds => .ok seconds
  | none => .error ⟨⟩

end UiSurface.Backoff
