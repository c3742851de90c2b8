import UiSurface.Json.Basic

/-!
# Components — the entries of a surface

A component has an id, a type and a few known fields; every other member of its JSON object is kept
as an extension, in order.  `encode` writes a component as a JSON object: known fields first, in a
fixed order and only where present, then the extensions.
-/

namespace UiSurface

/-- Children that repeat over an array of the data model.  They are passed on and not expanded. -/
structure ChildTemplate where
  dataPath : String
  componentId : String
deriving DecidableEq

/-- The children of a component: a list of ids, a template, both or neither. -/
structure ChildList where
  explicit : Option (List String)
  template : Option ChildTemplate
deriving DecidableEq

/-- What a component does when it is used: an event by name, perhaps with a context. -/
structure Action where
  event : String
  context : Option (Record Json)
deriving DecidableEq

/-- A component. -/
structure Component where
  id : String
  type : String
  children : Option ChildList
  text : Option String
  label : Option String
  action : Option Action
  style : Option (Record Json)
  labelStyle : Option (Record Json)
  extensions : Record Json
deriving DecidableEq

namespace Component

/-- The id of the component that a surface is shown from, unless the surface says otherwise. -/
def rootId : String := "root"

/-- The members of a component's JSON object that are fields of their own.  `componentType` is
another name for `component`. -/
def knownKeys : List String :=
  ["id", "component", "componentType", "children", "text", "label", "action", "style", "labelStyle"]

/-- The ids that a component lists as its children, in order (`child_ids`). -/
def childIds (c : Component) : List String :=
  match c.children with
  | some list => list.explicit.getD []
  | none => []

/-! ## Encoding -/

/-- An optional member: written only if it is there. -/
def member? (key : String) (value : Option Json) : List (String × Json) :=
  match value with
  | some v => [(key, v)]
  | none => []

def encodeTemplate (t : ChildTemplate) : Json :=
  .obj [("dataPath", .str t.dataPath), ("componentId", .str t.componentId)]

def encodeChildren (c : ChildList) : Json :=
  .obj (member? "explicitList" (c.explicit.map (fun ids => .arr (ids.map .str))) ++
    member? "template" (c.template.map encodeTemplate))

def encodeAction (a : Action) : Json :=
  .obj [("event", .obj (("name", .str a.event) :: member? "context" (a.context.map .obj)))]

/-- The members of a component's JSON object. -/
def encodeMembers (c : Component) : Record Json :=
  [("id", .str c.id), ("component", .str c.type)] ++
    member? "children" (c.children.map encodeChildren) ++
    member? "text" (c.text.map .str) ++
    member? "label" (c.label.map .str) ++
    member? "action" (c.action.map encodeAction) ++
    member? "style" (c.style.map .obj) ++
    member? "labelStyle" (c.labelStyle.map .obj) ++
    c.extensions

/-- A component as JSON. -/
def encode (c : Component) : Json := .obj c.encodeMembers

end Component

end UiSurface
