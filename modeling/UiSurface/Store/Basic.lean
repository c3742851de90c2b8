import UiSurface.Message.Decode
import UiSurface.Surface.Basic

/-!
# Stores — surfaces, the handles on them, and who listens

A store holds the live surface of each id.  A reader holds a handle; when its surface is deleted or
replaced the handle goes stale, and stays as it was from then on.  The store keeps stale handles, so
that what a reader sees through one is a fact of the store's state.
-/

namespace UiSurface

/-- A hold on one surface, by number.  Numbers are never used twice. -/
structure Handle where
  number : Nat
  surface : Surface
  stale : Bool
deriving DecidableEq

/-! ## Listeners -/

/-- What a listener does after it has noted a call. -/
inductive Reaction where
  | none
  /-- it fails, which disturbs nobody -/
  | fail
  /-- it cancels its own subscription -/
  | cancel
deriving DecidableEq

/-- A listener.  Two listeners are the same if all of this agrees. -/
structure Listener where
  number : Nat
  name : String
  reaction : Reaction
deriving DecidableEq

/-- A call of a listener: who was called, about what, and whether the surface was there by then. -/
structure Call where
  listener : String
  kind : MessageKind
  surface : String
  present : Bool
deriving DecidableEq

/-! ## Outcomes -/

/-- Why a message was not applied. -/
inductive Refusal where
  | disposed
  | undecodable (fault : Message.Fault)
  | noSurface (id : String)
  | overlayNotAccepted
  | rootNotObject (kind : String)
  | emptyPath (path : String)
deriving DecidableEq

def Refusal.message : Refusal → String
  | disposed => "STORE_DISPOSED: store has been disposed"
  | undecodable fault => "INVALID_MESSAGE: " ++ fault.message
  | noSurface id => "SURFACE_NOT_FOUND: '" ++ id ++ "' does not exist"
  | overlayNotAccepted => "LEGACY_DATA_MODEL: 'dataModel' key is not accepted"
  | rootNotObject kind =>
    "NON_OBJECT_ROOT_VALUE: root data model must be an object, got " ++ kind
  | emptyPath path => "INVALID_PATH: '" ++ path ++ "' has no segments"

/-- Something to note about a message that was applied. -/
inductive Caution where
  | missingRoot (surface root : String)
  | danglingChild (parent child : String)
deriving DecidableEq

namespace Caution

def code : Caution → String
  | missingRoot .. => "MISSING_ROOT"
  | danglingChild .. => "DANGLING_CHILD"

def message : Caution → String
  | missingRoot surface root => "surface '" ++ surface ++ "' has no '" ++ root ++ "' component"
  | danglingChild parent child =>
    "component '" ++ parent ++ "' references missing child '" ++ child ++ "'"

def details : Caution → Json
  | missingRoot .. => .null
  | danglingChild parent child => .obj [("parent", .str parent), ("child", .str child)]

/-- What is to be noted about the components of a surface (`_component_warnings`). -/
def ofSurface (s : Surface) : List Caution :=
  (if s.isRenderable then [] else [missingRoot s.id s.rootId]) ++
    s.components.dangling.map (fun d => danglingChild d.1 d.2)

end Caution

/-- What became of a message. -/
inductive Outcome where
  | accepted (surface : String) (cautions : List Caution)
  | refused (surface : Option String) (reason : Refusal)
deriving DecidableEq

namespace Outcome

def isAccepted : Outcome → Bool
  | accepted .. => true
  | refused .. => false

/-- The surface that the outcome is about. -/
def surface? : Outcome → Option String
  | accepted id _ => some id
  | refused id _ => id

end Outcome

/-! ## The store -/

/-- A store. -/
structure Store where
  /-- the live handle of each surface id -/
  live : Record Handle
  /-- the stale handles, the last first -/
  retired : List Handle
  /-- the number of the next handle -/
  nextHandle : Nat
  /-- who is called after a message is applied, in order -/
  listeners : List Listener
  /-- every call so far -/
  calls : List Call
  /-- whether the older form of data model update is accepted -/
  acceptsOverlay : Bool
  /-- whether the store has been disposed of -/
  disposed : Bool
deriving DecidableEq

namespace Store

def empty (acceptsOverlay : Bool) : Store := ⟨[], [], 0, [], [], acceptsOverlay, false⟩

def surface? (s : Store) (id : String) : Option Surface :=
  (Record.get? s.live id).map Handle.surface

def ids (s : Store) : List String := Record.keys s.live

def handles (s : Store) : List Handle := Record.values s.live ++ s.retired

def handle? (s : Store) (number : Nat) : Option Handle :=
  s.handles.find? (fun h => h.number == number)

/-! ## Subscriptions -/

/-- Adds a listener, behind those there are. -/
def subscribe (s : Store) (l : Listener) : Store := { s with listeners := s.listeners ++ [l] }

/-- Takes away a listener: the first that is the same, if there is one. -/
def cancel (s : Store) (l : Listener) : Store := { s with listeners := s.listeners.erase l }

/-- Calls one listener about a change. -/
def call (kind : MessageKind) (id : String) (s : Store) (l : Listener) : Store :=
  let noted := { s with calls := s.calls ++ [⟨l.name, kind, id, Record.has s.live id⟩] }
  match l.reaction with
  | .cancel => noted.cancel l
  | .none | .fail => noted

/-- Calls the listeners there are about a change, each once and in order, whatever they do
(`_notify`). -/
def notify (s : Store) (kind : MessageKind) (id : String) : Store :=
  -- who cancels on the way is still among those that are called
  s.listeners.foldl (call kind id) s

/-! ## Handles going stale -/

/-- Puts a handle among the stale ones. -/
def retire (s : Store) (h : Handle) : Store :=
  { s with retired := { h with stale := true } :: s.retired }

/-- Takes the live surface of an id away; its handle goes stale. -/
def remove (s : Store) (id : String) : Store :=
  match Record.get? s.live id with
  | some h => { s.retire h with live := Record.erase s.live id }
  | none => s

/-- Puts a new surface under its id, in the place of the one before, whose handle goes stale. -/
def place (s : Store) (surface : Surface) : Store :=
  let retired := match Record.get? s.live surface.id with
    | some h => s.retire h
    | none => s
  { retired with
    live := Record.put s.live surface.id ⟨s.nextHandle, surface, false⟩
    nextHandle := s.nextHandle + 1 }

/-- Changes the live surface of an id, under the same handle. -/
def modify (s : Store) (id : String) (f : Surface → Surface) : Store :=
  match Record.get? s.live id with
  | some h => { s with live := Record.put s.live id { h with surface := f h.surface } }
  | none => s

/-- Drops all surfaces, whose handles go stale, and all listeners, for good. -/
def dispose (s : Store) : Store :=
  { (Record.values s.live).foldl retire s with live := [], listeners := [], disposed := true }

/-- Shows the surface of a handle from another root. -/
def setRoot (s : Store) (number : Nat) (root : String) : Store :=
  let change (h : Handle) : Handle :=
    if h.number == number then { h with surface := { h.surface with rootId := root } } else h
  { s with live := Record.mapValues change s.live, retired := s.retired.map change }

end Store

end UiSurface
