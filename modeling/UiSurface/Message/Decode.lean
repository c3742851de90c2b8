import UiSurface.Component.Decode
import UiSurface.Message.Basic

/-!
# Decoding messages

An envelope must carry exactly one kind.  Its body is decoded whole: one component that is not as it
should be refuses the message.
-/

namespace UiSurface.Message

/-- Why an envelope is no message. -/
inductive Fault where
  | unknownKind
  | ambiguous (kinds : List MessageKind)
  | body (kind : MessageKind)
  | noSurfaceId (kind : MessageKind)
  | tokens
  | token (name : String)
  | components
  | component (fault : Component.Fault)
  | path
  | overlay
deriving DecidableEq

def Fault.message : Fault → String
  | unknownKind => "Unknown message kind"
  | ambiguous kinds => "Ambiguous envelope: carries " ++ MessageKind.listNames kinds
  | body kind => kind.name ++ " payload must be an object"
  | noSurfaceId kind => kind.name ++ " requires a non-empty 'surfaceId'"
  | tokens => "'designTokens' must be an object"
  | token name => "design token '" ++ name ++ "' requires a string 'value'"
  | components => "updateComponents requires a 'components' array"
  | component fault => fault.message
  | path => "'path' must be a string"
  | overlay => "'dataModel' must be an object"

/-- Decodes a token: an object whose value is a string.  An absent collection is the empty text. -/
def decodeToken? : Json → Option DesignToken
  | .obj members => match Json.field members "value" with
    | .str value => some ⟨value, (Record.get? members "collection").getD (.str "")⟩
    | _ => none
  | _ => none

def decodeTokenEntries : List (String × Json) → Except Fault TokenTable
  | [] => .ok []
  | (name, v) :: rest => match decodeToken? v with
    | some token => (decodeTokenEntries rest).map ((name, token) :: ·)
    | none => .error (.token name)

/-- Decodes the tokens of a surface. -/
def decodeTokens : Json → Except Fault TokenTable
  | .null => .ok []
  | .obj members => decodeTokenEntries members
  | _ => .error .tokens

def decodeComponents : List Json → Except Fault (List Component)
  | [] => .ok []
  | v :: vs => match Component.decode v with
    | .ok c => (decodeComponents vs).map (c :: ·)
    | .error fault => .error (.component fault)

/-- Decodes a change of a data model (`_decode_update_data_model`).  The older form has neither a
value nor a path. -/
def decodeUpdate (body : Record Json) : Except Fault ModelUpdate :=
  match Json.field body "path" with
  | .null =>
    match Record.get? body "value", Record.get? body "dataModel" with
    | none, some (.obj entries) => .ok (.overlay entries)
    | none, some _ => .error .overlay
    | value, _ => .ok (.write none (value.getD .null))
  | .str path => .ok (.write (some path) (Json.field body "value"))
  | _ => .error .path

/-- Decodes the body of a message of a kind. -/
def decodeBody (kind : MessageKind) (body : Record Json) : Except Fault Message :=
  match (Json.field body "surfaceId").name? with
  | none => .error (.noSurfaceId kind)
  | some surface => match kind with
    | .createSurface =>
      (decodeTokens (Json.field body "designTokens")).map
        (createSurface surface (Json.field body "catalogId") (Json.field body "sendDataModel"))
    | .updateComponents => match Json.field body "components" with
      | .arr items => (decodeComponents items).map (updateComponents surface)
      | _ => .error .components
    | .updateDataModel => (decodeUpdate body).map (updateDataModel surface)
    | .deleteSurface => .ok (deleteSurface surface)

/-- Decodes the members of an envelope (`decode_message`). -/
def decodeMembers (members : Record Json) : Except Fault Message :=
  match MessageKind.carriedBy members with
  | [] => .error .unknownKind
  | [kind] => match Json.field members kind.name with
    | .obj body => decodeBody kind body
    | _ => .error (.body kind)
  | kinds => .error (.ambiguous kinds)

/-- Decodes an envelope. -/
def decode : Json → Except Fault Message
  | .obj members => decodeMembers members
  | _ => .error .unknownKind

/-- Decodes envelopes one after the other (`decode_messages`); the first fault stands for all. -/
def decodeAll : List Json → Except Fault (List Message)
  | [] => .ok []
  | v :: vs => match decode v with
    | .ok m => (decodeAll vs).map (m :: ·)
    | .error fault => .error fault

end UiSurface.Message
