import UiSurface.DataModel.Path
import UiSurface.Json.Writer
import UiSurface.Reference.Clock
import UiSurface.Reference.Token

/-!
# Data bindings — texts that show a value of the data model

A text `${/a/b}` shows the scalar at `a`, `b` of the data model.  An object, an array or nothing at
that place leaves the text as it is.  Clock templates are replaced last, whatever the text came
from.
-/

namespace UiSurface.Reference

/-- The path of a binding, without its first slash (`binding_path`). -/
def bindingPath? (text : String) : Option String :=
  (enclosed? ['$', '\x7b', '/'] text.toList).map String.ofList

/-- The path of a value that is a binding, with its first slash. -/
def boundPath? : Json → Option String
  | .str text => (bindingPath? text).map ("/" ++ ·)
  | _ => none

/-- The text that a scalar is shown as (`_stringify`); objects and arrays have none.  A double without
a fraction is shown as an integer. -/
def scalarText? : Json → Option String
  | .null => some "null"
  | .bool b => some (if b then "true" else "false")
  | .num (.float x) => match x.toInt? with
    | some n => some (Number.intText n)
    | none => some (Number.floatText .plain x)
  | .num (.int n) => some (Number.intText n)
  | .str s => some s
  | .arr _ | .obj _ => none

/-- The text that a binding shows, if its path leads to a scalar (`resolve_binding`).  Empty pieces of
the path are keys too. -/
def bound? (model : DataModel) (text : String) : Option String := do
  let path ← bindingPath? text
  -- an empty piece is a key like any other here
  let value ← model.get? (Path.pieces path)
  scalarText? value

/-- A text with its binding resolved and its clock templates replaced (`resolve_text`). -/
def resolveText (model : DataModel) (now : Stamp) (text : String) : String :=
  now.expand ((bound? model text).getD text)

end UiSurface.Reference
