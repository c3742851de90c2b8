import UiSurface.Component.Table
import UiSurface.DataModel.Path
import UiSurface.Message.Basic
import UiSurface.Reference.Binding

/-!
# Surfaces — one screen: tokens, components, data model

A surface is what the messages about it have made of it.  It is shown by resolving references at the
time of showing, and it can be told again as messages.
-/

namespace UiSurface

/-- A surface. -/
structure Surface where
  id : String
  rootId : String
  components : ComponentTable
  model : DataModel
  tokens : TokenTable
  catalogId : Json
  sendDataModel : Json
deriving DecidableEq

namespace Surface

/-- A surface as it is created. -/
def create (id : String) (catalogId sendDataModel : Json) (tokens : TokenTable) : Surface :=
  ⟨id, Component.rootId, [], [], tokens, catalogId, sendDataModel⟩

/-- The component that a surface is shown from. -/
def root? (s : Surface) : Option Component := Record.get? s.components s.rootId

/-- Whether a surface has a root (`is_renderable`). -/
def isRenderable (s : Surface) : Bool := Record.has s.components s.rootId

/-- A text as the surface shows it at a time. -/
def resolveText (s : Surface) (now : Stamp) (text : String) : String :=
  Reference.resolveText s.model now text

/-! ## Export -/

/-- The messages that make the surface again (`to_messages`).  An empty data model is what a new
surface has, so it is not told. -/
def toMessages (s : Surface) : List Message :=
  [.createSurface s.id s.catalogId s.sendDataModel s.tokens,
   .updateComponents s.id (Record.values s.components)] ++
    (if s.model.isEmpty then [] else [.updateDataModel s.id (.write (some "/") (.obj s.model))])

/-! ## Bindings -/

/-- A property that is bound to the data model. -/
structure BoundProperty where
  path : String
  value : Json
  boundTo : String
deriving DecidableEq

/-- The binding of a property of a component, if its value is one.  Where the path leads nowhere the
binding stands for itself. -/
def boundProperty? (s : Surface) (c : Component) (key : String) (value : Json) :
    Option BoundProperty :=
  (Reference.boundPath? value).map fun path =>
    ⟨path, (s.model.get? (Path.segments path)).getD value,
      c.type ++ "." ++ key ++ " (" ++ c.id ++ ")"⟩

/-- Every bound property, in table order and in the order of the members of each component
(`data_bindings`). -/
def boundProperties (s : Surface) : List BoundProperty :=
  (Record.values s.components).flatMap fun c =>
    c.encodeMembers.filterMap fun m => boundProperty? s c m.1 m.2

def BoundProperty.encode (b : BoundProperty) : Json :=
  .obj [("path", .str b.path), ("current_value", b.value), ("bound_to", .str b.boundTo)]

end Surface

end UiSurface
