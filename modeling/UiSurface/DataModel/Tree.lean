import UiSurface.DataModel.Overlay
import UiSurface.Json.Shape

/-!
# Trees — data models that are taken as they come

A value that is asked to be a data model need not be an object.  It is not looked at before
something is asked of it, so a path without segments and an empty overlay suit any value.
-/

namespace UiSurface.Tree

def set (tree : Json) (keys : List String) (value : Json) : Except ShapeFault Json :=
  match tree, keys with
  | tree, [] => .ok tree
  | .obj model, keys => .ok (.obj (DataModel.set model keys value))
  | tree, [_] => .error (.notWritable tree)
  | tree, _ => .error (.noMembers tree)

def merge (base overlay : Json) : Except ShapeFault Json :=
  match base, overlay with
  | base, .obj [] => .ok base
  | .obj model, .obj members => .ok (.obj (DataModel.merge model members))
  | base, .obj _ => .error (.noMembers base)
  | _, overlay => .error (.noEntries overlay)

/-- The nested tree that a flat overlay stands for. -/
def expandFlat : Json → Except ShapeFault Json
  | .obj entries => .ok (.obj (DataModel.expandFlat entries))
  | overlay => .error (.noEntries overlay)

/-- Lays an overlay, nested or flat, over a tree. -/
def overlay (base entries : Json) : Except ShapeFault Json := do merge base (← expandFlat entries)

end UiSurface.Tree
