import UiSurface.Json.Basic

/-!
# Depth — how many values stand one inside the other

A value that holds no other has depth one, and so has an empty array or object.
-/

namespace UiSurface.Json

mutual

/-- The depth of a value. -/
def depth : Json → Nat
  | .arr items => depthItems items + 1
  | .obj members => depthMembers members + 1
  | .null | .bool _ | .num _ | .str _ => 1

def depthItems : List Json → Nat
  | [] => 0
  | v :: vs => max (depth v) (depthItems vs)

def depthMembers : List (String × Json) → Nat
  | [] => 0
  | (_, v) :: ms => max (depth v) (depthMembers ms)

end

end UiSurface.Json
