import UiSurface.DataModel.Path

/-!
# Overlays — laying one tree over another

`merge` lays an object over a data model: objects are merged key by key, anything else is replaced
whole, arrays too.  An overlay may also be flat, with a slash path for a key; `expandFlat` turns
such keys into nested objects first.
-/

namespace UiSurface.DataModel

mutual

/-- What stands under a key after a value is laid over what was there. -/
def mergeValue (existing : Option Json) : Json → Json
  | .obj members => match existing with
    | some (.obj base) => .obj (merge base members)
    -- what is no object gives way, and the members come in as they are
    | _ => .obj members
  | value => value

/-- Lays an object over a data model. -/
def merge (base : DataModel) : List (String × Json) → DataModel
  | [] => base
  | (key, value) :: rest =>
    merge (Record.put base key (mergeValue (Record.get? base key) value)) rest

end

/-- The tree with one branch that an entry of a flat overlay stands for: a key with a slash is a
path, any other key is itself. -/
def branch (key : String) (value : Json) : DataModel :=
  if key.toList.contains '/' then set [] (Path.segments key) value else [(key, value)]

/-- The nested tree that a flat overlay stands for (`expand_flat_paths`).  Branches are merged in
order, so keys that share a beginning end up in one object. -/
def expandFlat (overlay : Record Json) : DataModel :=
  overlay.foldl (fun tree entry => merge tree (branch entry.1 entry.2)) []

/-- Lays an overlay, nested or flat, over a data model (`normalize_overlay`). -/
def overlay (base : DataModel) (entries : Record Json) : DataModel :=
  merge base (expandFlat entries)

@[simp] theorem merge_nil (base : DataModel) : merge base [] = base := by simp [merge]

end UiSurface.DataModel
