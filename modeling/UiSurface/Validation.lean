import UiSurface.Problem

/-!
# Validation — judging a batch before it touches anything

Every value has a verdict: the list of its problems, in order of place, empty for a sound batch.  A
complete batch must also create a surface and update components.  References between components are
judged within one message.

This module reads the wire format on its own and shares nothing with the decoder.
-/

namespace UiSurface.Validation

/-- A problem at a place if a condition fails. -/
def require (ok : Bool) (place : String) (cause : ProblemCause) : List Problem :=
  if ok then [] else [⟨place, cause⟩]

/-- The problems of the items of a list, each judged with its index. -/
def itemwise {α : Type} (judge : Nat → α → List Problem) (items : List α) : List Problem :=
  (items.zipIdx.map (fun e => judge e.2 e.1)).flatten

/-! ## Components -/

def explicitList (place : String) : Json → List Problem
  | .arr items => itemwise (fun k v => require v.isString (Place.item place k) .childId) items
  | _ => [⟨place, .explicitList⟩]

/-- The problems of the children of a component, where they are given. -/
def children (place : String) : Option Json → List Problem
  | none => []
  | some (.obj members) => match Record.get? members "explicitList" with
    | none => []
    | some v => explicitList (Place.member place "explicitList") v
  | some _ => [⟨place, .children⟩]

/-- The event of an action, null if there is none. -/
def eventOf : Json → Json
  | .obj members => Json.field members "event"
  | _ => .null

/-- The problems of an action, where it is given. -/
def action (place : String) : Option Json → List Problem
  | none => []
  | some v => match eventOf v with
    | .obj event => require (Json.field event "name").isName place .action
    | _ => [⟨place, .action⟩]

/-- The problems of a field that holds a string or nothing. -/
def stringField (place : String) (members : Record Json) (key : String) : List Problem :=
  let v := Json.field members key
  require (v.isNull || v.isString) (Place.member place key) (.fieldNotString key)

/-- The problems of a field that holds an object or nothing. -/
def objectField (place : String) (members : Record Json) (key : String) : List Problem :=
  let v := Json.field members key
  require (v.isNull || v.isObject) (Place.member place key) (.fieldNotObject key)

/-- The type of a component, under either name. -/
def typeOf (members : Record Json) : Json :=
  (Record.get? members "component").getD (Json.field members "componentType")

/-- The problems of a component (`_validate_component`). -/
def component (place : String) : Json → List Problem
  | .obj members =>
    require (Json.field members "id").isName (Place.member place "id") .componentId ++
    require (typeOf members).isName (Place.member place "component") .componentType ++
    children (Place.member place "children") (Record.get? members "children") ++
    action (Place.member place "action") (Record.get? members "action") ++
    stringField place members "text" ++ stringField place members "label" ++
    objectField place members "style" ++ objectField place members "labelStyle"
  | _ => [⟨place, .componentNotObject⟩]

/-! ## References between components -/

def idOf? : Json → Option String
  | .obj members => (Json.field members "id").name?
  | _ => none

/-- The listed children of a component; none where the list is missing or no array. -/
def listedChildren : Json → List Json
  | .obj members => match Json.field members "children" with
    | .obj children => match Json.field children "explicitList" with
      | .arr items => items
      | _ => []
    | _ => []
  | _ => []

/-- The problem of a child that is not among the ids. -/
def reference (ids : List String) (place : String) : Json → List Problem
  | .str child => require (ids.contains child) place (.danglingChild child)
  | _ => []

/-- The problems of the references between components, and of the number of roots. -/
def references (place : String) (components : List Json) : List Problem :=
  -- the components of earlier messages play no part
  let ids := components.filterMap idOf?
  let roots := ids.count Component.rootId
  itemwise (fun j c =>
    let list := Place.member (Place.member (Place.item place j) "children") "explicitList"
    itemwise (fun k child => reference ids (Place.item list k) child) (listedChildren c)) components ++
  (if roots = 0 then [⟨place, .missingRoot⟩]
    else require (roots == 1) place (.severalRoots roots))

/-! ## Messages -/

def surfaceId (kind : MessageKind) (place : String) (body : Record Json) : List Problem :=
  require (Json.field body "surfaceId").isName (Place.member place "surfaceId") (.surfaceId kind)

/-- Whether a token is an object whose value is a string. -/
def isToken : Json → Bool
  | .obj members => (Json.field members "value").isString
  | _ => false

def tokens (place : String) : Json → List Problem
  | .null => []
  | .obj members => members.flatMap (fun m => require (isToken m.2) (Place.member place m.1) .token)
  | _ => [⟨place, .tokens⟩]

/-- The problems of the components of a message (`_validate_update_components`). -/
def components (place : String) : Json → List Problem
  | .arr items =>
    itemwise (fun j c => component (Place.item place j) c) items ++ references place items
  | _ => [⟨place, .components⟩]

def rootValue (place : String) (v : Json) : List Problem :=
  require v.isObject (Place.member place "value") .rootValue

/-- The problems of a change of a data model (`_validate_update_data_model`). -/
def modelUpdate (place : String) (body : Record Json) : List Problem :=
  match Json.field body "path" with
  | .null =>
    -- the older form: an overlay in the place of path and value
    if !Record.has body "value" && Record.has body "dataModel" then
      require (Json.field body "dataModel").isObject (Place.member place "dataModel") .overlay
    else rootValue place (Json.field body "value")
  | .str path => if path == "/" then rootValue place (Json.field body "value") else []
  | _ => [⟨Place.member place "path", .path⟩]

/-- The problems of the body of a message of a kind. -/
def messageBody (kind : MessageKind) (place : String) (body : Record Json) : List Problem :=
  surfaceId kind place body ++
    match kind with
    | .createSurface => tokens (Place.member place "designTokens") (Json.field body "designTokens")
    | .updateComponents =>
      components (Place.member place "components") (Json.field body "components")
    | .updateDataModel => modelUpdate place body
    | .deleteSurface => []

/-- The keys of an object in the order of their code points. -/
def sortedKeys (members : Record Json) : List String :=
  (Record.keys members).mergeSort Text.precedes

/-- The problems of an envelope (`validate_message`). -/
def message (place : String) : Json → List Problem
  | .obj members => match MessageKind.carriedBy members with
    | [] => [⟨place, .unknownKind (sortedKeys members)⟩]
    | [kind] => match Json.field members kind.name with
      | .obj body => messageBody kind (Place.member place kind.name) body
      | _ => [⟨Place.member place kind.name, .body kind⟩]
    | kinds => [⟨place, .ambiguous kinds⟩]
  | _ => [⟨place, .messageNotObject⟩]

/-! ## Batches -/

/-- The problems of a complete batch that lacks a kind of message. -/
def completeness (kinds : List MessageKind) : List Problem :=
  require (kinds.contains .createSurface) Place.batch .noCreateSurface ++
    require (kinds.contains .updateComponents) Place.batch .noUpdateComponents

/-- The problems of a batch that may be part of a longer stream. -/
def incremental : Json → List Problem
  | .arr (v :: vs) => itemwise (fun i e => message (Place.message i) e) (v :: vs)
  | _ => [⟨Place.batch, .emptyBatch⟩]

/-- The problems of a batch that stands on its own (`validate`). -/
def complete : Json → List Problem
  | .arr (v :: vs) =>
    incremental (.arr (v :: vs)) ++ completeness ((v :: vs).filterMap MessageKind.ofEnvelope?)
  | v => incremental v

end UiSurface.Validation
