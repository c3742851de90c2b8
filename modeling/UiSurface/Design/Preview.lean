import UiSurface.Store.Basic
import UiSurface.Surface.Render

/-!
# Previews — a design as it is shown before it is pushed

A preview holds the tree and the outline of a surface at a time, and what is missing in it.
-/

namespace UiSurface

def Caution.brief : Caution → String
  | missingRoot _ root => "no '" ++ root ++ "' component"
  | danglingChild parent child => "'" ++ parent ++ "' references missing child '" ++ child ++ "'"

/-- A preview of a surface. -/
structure Preview where
  surface : String
  renderable : Bool
  tree : Option Node
  outline : String
  cautions : List Caution

namespace Preview

/-- The preview of a surface at a time. -/
def ofSurface (s : Surface) (now : Stamp) : Except TooManyDigits Preview := do
  return ⟨s.id, s.isRenderable, ← s.renderTree now, s.renderText now, Caution.ofSurface s⟩

def encodeCaution (c : Caution) : Json :=
  .obj [("code", .str c.code), ("message", .str c.brief)]

def encode (p : Preview) : Json :=
  .obj [("surface_id", .str p.surface), ("renderable", .bool p.renderable),
    ("tree", (p.tree.map Node.encode).getD .null), ("outline", .str p.outline),
    ("warnings", .arr (p.cautions.map encodeCaution))]

/-- The values of any shape in a preview: what the root of its tree holds. -/
def values (p : Preview) : List Json :=
  match p.tree.map Node.encode with
  | some (.obj members) => Record.values members
  | _ => []

end Preview

end UiSurface
