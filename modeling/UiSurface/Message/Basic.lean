import UiSurface.Component.Basic
import UiSurface.Reference.Token

/-!
# Messages — what is said about surfaces

A message creates a surface, updates its components, updates its data model, or deletes it.  On the
wire a message is an object with one member, named for its kind.
-/

namespace UiSurface

/-- The kinds of messages. -/
inductive MessageKind where
  | createSurface
  | updateComponents
  | updateDataModel
  | deleteSurface
deriving DecidableEq

namespace MessageKind

def name : MessageKind → String
  | createSurface => "createSurface"
  | updateComponents => "updateComponents"
  | updateDataModel => "updateDataModel"
  | deleteSurface => "deleteSurface"

/-- All kinds, in the order in which they are looked for. -/
def all : List MessageKind := [createSurface, updateComponents, updateDataModel, deleteSurface]

/-- The kinds that an object has members for. -/
def carriedBy (members : Record Json) : List MessageKind :=
  all.filter (fun k => Record.has members k.name)

/-- The kind of an envelope (`message_kind`): the only one that it carries. -/
def ofEnvelope? : Json → Option MessageKind
  | .obj members => match carriedBy members with
    | [kind] => some kind
    | _ => none
  | _ => none

/-- The names of kinds, separated by commas. -/
def listNames (kinds : List MessageKind) : String := String.intercalate ", " (kinds.map name)

end MessageKind

/-- A change of a data model. -/
inductive ModelUpdate where
  /-- writes a value at a path; without a path, or at `/`, it replaces the whole model -/
  | write (path : Option String) (value : Json)
  /-- lays an overlay over the model: the older form of the message -/
  | overlay (entries : Record Json)
deriving DecidableEq

/-- Whether an update replaces the whole model (`replaces_root`).  The older form has no path, and
says so too. -/
def ModelUpdate.replacesRoot : ModelUpdate → Bool
  | write path _ => path.isNone || path == some "/"
  | overlay _ => true

/-- A message.  The catalog id and the wish for the data model are kept as they came; null stands
for none. -/
inductive Message where
  | createSurface (surface : String) (catalogId sendDataModel : Json) (tokens : TokenTable)
  | updateComponents (surface : String) (components : List Component)
  | updateDataModel (surface : String) (update : ModelUpdate)
  | deleteSurface (surface : String)
deriving DecidableEq

namespace Message

def kind : Message → MessageKind
  | createSurface .. => .createSurface
  | updateComponents .. => .updateComponents
  | updateDataModel .. => .updateDataModel
  | deleteSurface .. => .deleteSurface

def surface : Message → String
  | createSurface id .. | updateComponents id _ | updateDataModel id _ | deleteSurface id => id

/-! ## Encoding -/

/-- A value that is left out when it is null. -/
def unlessNull (key : String) (v : Json) : List (String × Json) :=
  if v.isNull then [] else [(key, v)]

def encodeToken (t : DesignToken) : Json :=
  .obj [("value", .str t.value), ("collection", t.collection)]

/-- The members of the body of a message. -/
def encodeBody : Message → Record Json
  | createSurface surface catalogId sendDataModel tokens =>
    [("surfaceId", .str surface)] ++ unlessNull "catalogId" catalogId ++
      unlessNull "sendDataModel" sendDataModel ++
      (if tokens.isEmpty then []
        else [("designTokens", .obj (Record.mapValues encodeToken tokens))])
  | updateComponents surface components =>
    [("surfaceId", .str surface), ("components", .arr (components.map Component.encode))]
  | updateDataModel surface (.overlay entries) =>
    [("surfaceId", .str surface), ("dataModel", .obj entries)]
  | updateDataModel surface (.write path value) =>
    [("surfaceId", .str surface)] ++ Component.member? "path" (path.map .str) ++ [("value", value)]
  | deleteSurface surface => [("surfaceId", .str surface)]

/-- A message as an envelope (`encode_message`). -/
def encode (m : Message) : Json := .obj [(m.kind.name, .obj m.encodeBody)]

end Message

end UiSurface
