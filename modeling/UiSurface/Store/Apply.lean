import UiSurface.DataModel.Overlay
import UiSurface.Store.Basic

/-!
# Applying messages

A store takes messages one at a time, in the order of their arrival.  Each is applied whole or not
at all: every check comes before the first change, and a refused message leaves the store as it was.
Listeners are called after the change.
-/

namespace UiSurface.Store

/-! ## Effects -/

/-- The data model after an update, or why there is none. -/
def updatedModel (acceptsOverlay : Bool) (model : DataModel) :
    ModelUpdate → Except Refusal DataModel
  | .overlay entries =>
    if acceptsOverlay then .ok (model.overlay entries) else .error .overlayNotAccepted
  | .write path value =>
    -- the root is named by no path, or by a slash alone
    if path.isNone || path == some "/" then
      match value with
      | .obj members => .ok members
      | other => .error (.rootNotObject other.kindName)
    else
      let keys := Path.segments (path.getD "")
      if keys.isEmpty then .error (.emptyPath (path.getD ""))
      else .ok (model.set keys value)

/-- What a message makes of a store, and what is to be noted, or why it is refused. -/
def effect (s : Store) : Message → Except Refusal (Store × List Caution)
  | .createSurface id catalogId sendDataModel tokens =>
    .ok (s.place (Surface.create id catalogId sendDataModel tokens), [])
  | .updateComponents id components => match s.surface? id with
    | none => .error (.noSurface id)
    | some surface =>
      let updated := { surface with components := surface.components.upsertAll components }
      .ok (s.modify id (fun _ => updated), Caution.ofSurface updated)
  | .updateDataModel id update => match s.surface? id with
    | none => .error (.noSurface id)
    | some surface => match updatedModel s.acceptsOverlay surface.model update with
      | .error reason => .error reason
      | .ok model => .ok (s.modify id (fun _ => { surface with model := model }), [])
  | .deleteSurface id => match s.surface? id with
    | none => .error (.noSurface id)
    | some _ => .ok (s.remove id, [])

/-! ## Applying -/

/-- Applies a message. -/
def apply (s : Store) (m : Message) : Store × Outcome :=
  if s.disposed then (s, .refused none .disposed)
  else match s.effect m with
    | .error reason => (s, .refused (some m.surface) reason)
    | .ok (next, cautions) => (next.notify m.kind m.surface, .accepted m.surface cautions)

/-- Applies an envelope: what does not decode is refused. -/
def applyMembers (s : Store) (members : Record Json) : Store × Outcome :=
  if s.disposed then (s, .refused none .disposed)
  else match Message.decodeMembers members with
    | .error fault => (s, .refused none (.undecodable fault))
    | .ok m => s.apply m

/-- A value was given for a message that is not even an object. -/
structure NotAMessage where
  kind : String
deriving DecidableEq

def NotAMessage.message (fault : NotAMessage) : String :=
  "'" ++ fault.kind ++ "' object has no attribute 'kind'"

/-- Applies a value that should be an envelope.  Only objects are; anything else is a fault of the
caller, unless the store refuses everything. -/
def applyValue (s : Store) : Json → Except NotAMessage (Store × Outcome)
  | .obj members => .ok (s.applyMembers members)
  | v => if s.disposed then .ok (s, .refused none .disposed) else .error ⟨v.kindName⟩

/-- Applies messages one after the other (`apply_all`). -/
def applyAll (s : Store) : List Message → Store × List Outcome
  | [] => (s, [])
  | m :: ms =>
    let (s, outcome) := s.apply m
    let (s, outcomes) := s.applyAll ms
    (s, outcome :: outcomes)

/-- Applies values one after the other.  A fault ends the run, and what was applied before it stays
applied. -/
def applyValues (s : Store) : List Json → Store × Except NotAMessage (List Outcome)
  | [] => (s, .ok [])
  | v :: vs => match s.applyValue v with
    | .error fault => (s, .error fault)
    | .ok (s, outcome) =>
      let (s, outcomes) := s.applyValues vs
      (s, outcomes.map (outcome :: ·))

end UiSurface.Store
