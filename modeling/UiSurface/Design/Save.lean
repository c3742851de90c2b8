import UiSurface.Design.Storage
import UiSurface.Store.Batch

/-!
# Saving and folding designs

A batch is kept only if it is sound and complete, makes exactly one surface whose id may name a
file, and leaves that surface at the end.  Folding a design makes its surface in a store of its own.
-/

namespace UiSurface.Design

/-! ## Folding -/

/-- The store after a batch is imported into an empty one (`_fold`). -/
def foldBatch (acceptsOverlay : Bool) (batch : Json) : Except Store.ImportFault Store :=
  match (Store.empty acceptsOverlay).importBatch batch with
  | (store, .ok _) => .ok store
  | (_, .error fault) => .error fault

/-- The surface of a design, folded from its batch. -/
def fold (acceptsOverlay : Bool) (d : Design) : Except Store.ImportFault Surface := do
  let store ← foldBatch acceptsOverlay d.batch
  match store.surface? d.id with
  | some surface => return surface
  | none => .error (.rejected [⟨Place.batch, .noSurfaceLeft d.id⟩])

/-! ## What may be kept -/

/-- A wish to save a batch. -/
structure SaveRequest where
  /-- the id that the design is to have, if one is asked for -/
  id : Option String
  messages : List Json
deriving DecidableEq

/-- The different ids of a list, in order. -/
def distinctIds (ids : List String) : List String :=
  (ids.mergeSort Text.precedes).eraseDups

/-- The problem of an id that is asked for and is not that of the surface. -/
def requestedProblems (requested : Option String) (id : String) : List Problem :=
  match requested with
  | some other =>
    if other.isEmpty then [] else Validation.require (other == id) "id" (.otherDesignId other id)
  | none => []

/-- Why the gate has no verdict on a batch. -/
inductive GateFault where
  /-- the first surface that is created is asked for, and there is none -/
  | noFirst
  | batch (fault : Store.ImportFault)

/-- What keeps a sound batch from being a design: its surfaces, their id, and what is left of them
(`_design_id_errors`). -/
def gateProblems (acceptsOverlay : Bool) (request : SaveRequest) :
    Except GateFault (List Problem) :=
  let created := createdSurfaces request.messages
  let ids := distinctIds (created.map Prod.snd)
  match created with
  | [] => .error .noFirst
  | (index, id) :: _ =>
    -- one surface may be created again and again, but only one
    if 1 < ids.length then .ok [⟨Place.batch, .severalSurfaces ids⟩]
    else if !isValidId id then
      .ok [⟨Place.member (Place.member (Place.message index) "createSurface") "surfaceId",
        .unusableSurfaceId id⟩]
    else match requestedProblems request.id id with
      | p :: ps => .ok (p :: ps)
      | [] => match foldBatch acceptsOverlay (.arr request.messages) with
        | .error fault => .error (.batch fault)
        -- the batch may delete its surface again
        | .ok store =>
          .ok (Validation.require (Record.has store.live id) Place.batch (.noSurfaceLeft id))

/-- Everything that keeps a batch from being saved. -/
def saveProblems (acceptsOverlay : Bool) (request : SaveRequest) :
    Except GateFault (List Problem) :=
  match Validation.complete (.arr request.messages) with
  | [] => gateProblems acceptsOverlay request
  | problems => .ok problems

end UiSurface.Design
