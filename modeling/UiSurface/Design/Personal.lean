import UiSurface.DataModel.Overlay
import UiSurface.Message.Envelope

/-!
# Personal designs — a design with values of one's own

An overlay is laid over every data model that a batch gives as a whole.  What goes to a single
branch stays as it is, and so does everything else.
-/

namespace UiSurface.Design

/-- The body of a message that gives a data model as a whole: with a value, and without a path or at
the root. -/
def rootUpdate? : Json → Option (Record Json)
  | .obj members => match Json.field members "updateDataModel" with
    | .obj body =>
      let path := Json.field body "path"
      if Record.has body "value" && (path.isNull || path == .str "/") then some body else none
    | _ => none
  | _ => none

/-- A data model with an overlay; what is no object counts as an empty one. -/
def overlaidValue (value : Json) (entries : Record Json) : Json :=
  .obj (DataModel.overlay (value.members?.getD []) entries)

/-- A message with an overlay laid over the data model that it gives. -/
def personaliseMessage (entries : Record Json) (message : Json) : Json :=
  match rootUpdate? message with
  | some body => Envelope.ofBody .updateDataModel
      [("surfaceId", Json.field body "surfaceId"), ("path", .str "/"),
       ("value", overlaidValue (Json.field body "value") entries)]
  | none => message

/-- A batch with an overlay (`with_data_model`). -/
def personalise (messages : List Json) (entries : Record Json) : List Json :=
  messages.map (personaliseMessage entries)

end UiSurface.Design
