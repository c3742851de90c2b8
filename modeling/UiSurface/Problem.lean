import UiSurface.Message.Basic
import UiSurface.Text.Quoted

/-!
# Problems — what is wrong in a batch, and where

A problem is a cause at a place.  Structural problems forbid applying a message; referential ones
are reported, and the message is applied all the same.
-/

namespace UiSurface

/-! ## Places -/

namespace Place

def member (place key : String) : String := place ++ "." ++ key

def item (place : String) (index : Nat) : String :=
  place ++ "[" ++ Number.intText index ++ "]"

def batch : String := "messages"

def message (index : Nat) : String := item batch index

end Place

/-! ## Causes -/

/-- What is wrong at a place. -/
inductive ProblemCause where
  | emptyBatch
  | noCreateSurface
  | noUpdateComponents
  | messageNotObject
  | unknownKind (keys : List String)
  | ambiguous (kinds : List MessageKind)
  | body (kind : MessageKind)
  | surfaceId (kind : MessageKind)
  | tokens
  | token
  | components
  | componentNotObject
  | componentId
  | componentType
  | children
  | explicitList
  | childId
  | action
  | fieldNotString (field : String)
  | fieldNotObject (field : String)
  | path
  | overlay
  | rootValue
  | danglingChild (child : String)
  | missingRoot
  | severalRoots (count : Nat)
  | severalSurfaces (ids : List String)
  | unusableSurfaceId (id : String)
  | otherDesignId (requested id : String)
  | noSurfaceLeft (id : String)
deriving DecidableEq

namespace ProblemCause

def message : ProblemCause → String
  | emptyBatch => "Expected a non-empty array of messages"
  | noCreateSurface => "Batch must contain a createSurface message"
  | noUpdateComponents => "Batch must contain an updateComponents message"
  | messageNotObject => "Message must be an object"
  | unknownKind keys => "Unknown message kind (keys: " ++ Text.quoteList keys ++ ")"
  | ambiguous kinds => "Ambiguous message: carries " ++ MessageKind.listNames kinds
  | body kind => kind.name ++ " payload must be an object"
  | surfaceId kind => kind.name ++ " requires a non-empty surfaceId"
  | tokens => "designTokens must be an object"
  | token => "Design token requires a string 'value'"
  | components => "updateComponents requires a components array"
  | componentNotObject => "Component must be an object"
  | componentId => "Component requires a non-empty id"
  | componentType => "Component requires a non-empty component type"
  | children => "children must be an object"
  | explicitList => "explicitList must be an array"
  | childId => "Child reference must be a string id"
  | action => "action requires a non-empty event name"
  | fieldNotString field => field ++ " must be a string"
  | fieldNotObject field => field ++ " must be an object"
  | path => "path must be a string"
  | overlay => "dataModel must be an object"
  | rootValue => "Root data model value must be an object"
  | danglingChild child => "Child '" ++ child ++ "' is not defined in this components array"
  | missingRoot => "Missing '" ++ Component.rootId ++ "' component"
  | severalRoots count =>
    "Expected exactly one '" ++ Component.rootId ++ "' component, found " ++ Number.intText count
  | severalSurfaces ids => "A design holds one surface, found " ++ Text.quoteList ids
  | unusableSurfaceId id => "Surface id '" ++ id ++ "' must match ^[A-Za-z0-9_.-]+$"
  | otherDesignId requested id =>
    "Design id '" ++ requested ++ "' must match createSurface '" ++ id ++ "'"
  | noSurfaceLeft id => "Batch leaves no surface '" ++ id ++ "'"

/-- Whether a message with this problem may not be applied. -/
def isStructural : ProblemCause → Bool
  | danglingChild _ | missingRoot | severalRoots _ => false
  | _ => true

end ProblemCause

/-- A cause at a place. -/
structure Problem where
  place : String
  cause : ProblemCause
deriving DecidableEq

namespace Problem

def isStructural (p : Problem) : Bool := p.cause.isStructural

/-- The word for the severity of a problem. -/
def kindName (p : Problem) : String := if p.isStructural then "structural" else "referential"

def message (p : Problem) : String := p.cause.message

/-- A problem on one line. -/
def line (p : Problem) : String := "[" ++ p.place ++ "] " ++ p.message

end Problem

/-- Whether one of the problems is structural (`has_structural_errors`). -/
def hasStructural (problems : List Problem) : Bool := problems.any Problem.isStructural

end UiSurface
