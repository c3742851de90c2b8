import UiSurface.Message.Basic

/-!
# Envelopes — raw messages, built by hand

An envelope says the same as a message but is not checked: any value may stand in it.
-/

namespace UiSurface.Envelope

/-- The envelope of a kind with a body. -/
def ofBody (kind : MessageKind) (body : Record Json) : Json := .obj [(kind.name, .obj body)]

/-- A token in an envelope: an object is taken as it is, anything else is the value of a token in no
collection. -/
def token : Json → Json
  | .obj members => .obj members
  | v => .obj [("value", v), ("collection", .str "")]

/-- An envelope that creates a surface (`create_surface`).  Null stands for what is left out. -/
def createSurface (surface : Json) (tokens : Option (Record Json)) (catalogId sendDataModel : Json) :
    Json :=
  ofBody .createSurface
    ([("surfaceId", surface)] ++ Message.unlessNull "catalogId" catalogId ++
      Message.unlessNull "sendDataModel" sendDataModel ++
      Component.member? "designTokens" (tokens.map (fun t => .obj (Record.mapValues token t))))

/-- An envelope that updates components (`update_components`). -/
def updateComponents (surface components : Json) : Json :=
  ofBody .updateComponents [("surfaceId", surface), ("components", components)]

/-- An envelope that writes into a data model (`update_data_model`).  A null path is left out. -/
def updateDataModel (surface value path : Json) : Json :=
  ofBody .updateDataModel
    ([("surfaceId", surface)] ++ Message.unlessNull "path" path ++ [("value", value)])

/-- An envelope that deletes a surface (`delete_surface`). -/
def deleteSurface (surface : Json) : Json := ofBody .deleteSurface [("surfaceId", surface)]

end UiSurface.Envelope
