import UiSurface.Json.Shape

/-!
# Cells — values in the columns of a table

A column has a width, and what is narrower is filled up with blanks.
-/

namespace UiSurface.Cell

/-- A text with blanks behind it, at least so wide. -/
def padEnd (width : Nat) (s : String) : String :=
  s ++ String.ofList (List.replicate (width - s.length) ' ')

/-- A text with blanks before it, at least so wide. -/
def padStart (width : Nat) (s : String) : String :=
  String.ofList (List.replicate (width - s.length) ' ') ++ s

/-- A value in a cell of a table.  A truth value counts as a number. -/
def ofJson (width : Nat) : Json → Except ShapeFault String
  | .str s => .ok (padEnd width s)
  | .bool b => .ok (padEnd width (if b then "1" else "0"))
  | .num n => .ok (padEnd width (n.text .plain))
  | v => .error (.noCell v)

end UiSurface.Cell
