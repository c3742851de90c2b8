import UiSurface.Json.Basic
import UiSurface.Text.Lines

/-!
# Designs — the batch of messages that makes one surface

A design is known by the id of the surface that its batch creates.  An id that is to name a file is
made of a few plain characters, so it never leaves the folder it is kept in.

Main lemma: `not_mem_of_isValidId` (a valid id holds no character outside the plain ones, a slash in
particular).
-/

namespace UiSurface

/-- A design. -/
structure Design where
  id : String
  messages : List (Record Json)
deriving DecidableEq

namespace Design

/-! ## Ids -/

/-- A character that an id may hold: an ASCII letter or digit, the low line, the full stop, the
hyphen. -/
def isIdChar (c : Char) : Bool := c.isAlphanum || c == '_' || c == '.' || c == '-'

def maxIdLength : Nat := 200

def isIdText (text : String) : Bool := !text.isEmpty && text.toList.all isIdChar

/-- Whether an id may name a file (`is_valid_design_id`). -/
def isValidId (id : String) : Bool := decide (id.length ≤ maxIdLength) && isIdText id

/-- A value that is an id which may name a file. -/
def validId? : Json → Option String
  | .str id => if isValidId id then some id else none
  | _ => none

/-- No other character than one of ids stands in an id that may name a file. -/
theorem not_mem_of_isValidId {id : String} {c : Char} (h : isValidId id = true)
    (hc : isIdChar c = false) : c ∉ id.toList := by
  intro hm
  simp only [isValidId, isIdText, Bool.and_eq_true, List.all_eq_true] at h
  have := h.2.2 c hm
  simp [hc] at this

/-- An id as people read it (`display_name`): low lines are spaces. -/
def displayName (id : String) : String :=
  String.ofList (id.toList.map (fun c => if c = '_' then ' ' else c))

def name (d : Design) : String := displayName d.id

/-! ## Batches -/

def batch (d : Design) : Json := .arr (d.messages.map .obj)

/-- The values of any shape in a design: what its messages hold. -/
def values (d : Design) : List Json := d.messages.flatMap Record.values

/-- The id of the surface that a message creates. -/
def createdSurface? : Json → Option String
  | .obj members => match Json.field members "createSurface" with
    | .obj body => (Json.field body "surfaceId").name?
    | _ => none
  | _ => none

/-- The surfaces that a batch creates, each with the index of its message (`create_surface_ids`). -/
def createdSurfaces (messages : List Json) : List (Nat × String) :=
  messages.zipIdx.filterMap (fun e => (createdSurface? e.1).map (fun id => (e.2, id)))

/-- The id of the first surface that a batch creates (`design_id_for`). -/
def idOf (messages : List Json) (fallback : String) : String :=
  match createdSurfaces messages with
  | (_, id) :: _ => id
  | [] => fallback

/-- The messages of a batch, if it is an array of objects. -/
def messagesOf? : Json → Option (List (Record Json))
  | .arr items => items.mapM Json.members?
  | _ => none

theorem messagesOf?_objects (messages : List (Record Json)) :
    messagesOf? (.arr (messages.map .obj)) = some messages := by
  show (messages.map Json.obj).mapM Json.members? = some messages
  induction messages with
  | nil => rfl
  | cons m ms ih =>
    rw [List.map_cons, List.mapM_cons, ih]
    rfl

end Design

end UiSurface
