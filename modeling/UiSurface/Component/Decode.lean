import UiSurface.Component.Basic
import UiSurface.Json.Writer

/-!
# Decoding components

A JSON object is decoded field by field, in a fixed order; the first field that is not as it should
be is the fault.  An absent field and a field that is null are the same.
-/

namespace UiSurface.Component

/-- Why a value is no component. -/
inductive Fault where
  | notObject
  | noId
  | noType (id : String)
  | children (id : String)
  | explicitList (id : String)
  | action (id : String)
  | fieldNotObject (id field : String)
  | fieldNotString (id field : String)
deriving DecidableEq

def Fault.message : Fault → String
  | notObject => "component must be an object"
  | noId => "component requires a non-empty 'id'"
  | noType id => "component '" ++ id ++ "' requires a non-empty 'component'"
  | children id => "component '" ++ id ++ "': 'children' must be an object"
  | explicitList id => "component '" ++ id ++ "': 'explicitList' must be a list of ids"
  | action id => "component '" ++ id ++ "': action requires a non-empty event name"
  | fieldNotObject id field => "component '" ++ id ++ "': '" ++ field ++ "' must be an object"
  | fieldNotString id field => "component '" ++ id ++ "': '" ++ field ++ "' must be a string"

def idList? : Json → Option (List String)
  | .arr items => items.mapM Json.text?
  | _ => none

/-- The type of a component: the member `component`, or `componentType` where that is absent. -/
def typeField (members : Record Json) : Json :=
  match Record.get? members "component" with
  | some v => v
  | none => Json.field members "componentType"

/-- A member of a template as text, whatever it is; empty if it is absent. -/
def templateText (members : Record Json) (key : String) : String :=
  ((Record.get? members key).map Json.asText).getD ""

/-- Decodes a list of children. -/
def decodeChildren (id : String) : Json → Except Fault (Option ChildList)
  | .null => .ok none
  | .obj members => do
    let explicit ← match Json.field members "explicitList" with
      | .null => pure none
      | v => match idList? v with
        | some ids => pure (some ids)
        | none => .error (.explicitList id)
    let template := match Json.field members "template" with
      | .obj t => some ⟨templateText t "dataPath", templateText t "componentId"⟩
      | _ => none
    return some ⟨explicit, template⟩
  | _ => .error (.children id)

/-- The members of the event of an action; empty where there is none. -/
def eventMembers : Json → Record Json
  | .obj members => match Json.field members "event" with
    | .obj event => event
    | _ => []
  | _ => []

/-- Decodes an action.  A context that is no object is left out. -/
def decodeAction (id : String) : Json → Except Fault (Option Action)
  | .null => .ok none
  | v => match (Json.field (eventMembers v) "name").name? with
    | some name => .ok (some ⟨name, (Json.field (eventMembers v) "context").members?⟩)
    | none => .error (.action id)

def decodeObject (id field : String) : Json → Except Fault (Option (Record Json))
  | .null => .ok none
  | .obj members => .ok (some members)
  | _ => .error (.fieldNotObject id field)

def decodeString (id field : String) : Json → Except Fault (Option String)
  | .null => .ok none
  | .str s => .ok (some s)
  | _ => .error (.fieldNotString id field)

/-- The members that are no fields of their own. -/
def extensionsOf (members : Record Json) : Record Json :=
  members.filter (fun m => !knownKeys.contains m.1)

/-- Decodes a component from the members of an object (`decode_component`). -/
def decodeMembers (members : Record Json) : Except Fault Component :=
  match (Json.field members "id").name? with
  | none => .error .noId
  | some id => match (typeField members).name? with
    | none => .error (.noType id)
    | some type => do
      let children ← decodeChildren id (Json.field members "children")
      let action ← decodeAction id (Json.field members "action")
      let style ← decodeObject id "style" (Json.field members "style")
      let labelStyle ← decodeObject id "labelStyle" (Json.field members "labelStyle")
      let text ← decodeString id "text" (Json.field members "text")
      let label ← decodeString id "label" (Json.field members "label")
      return ⟨id, type, children, text, label, action, style, labelStyle, extensionsOf members⟩

/-- Decodes a component. -/
def decode : Json → Except Fault Component
  | .obj members => decodeMembers members
  | _ => .error .notObject

end UiSurface.Component
