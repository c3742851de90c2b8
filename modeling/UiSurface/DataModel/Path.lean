import UiSurface.Json.Basic
import UiSurface.Text.Lines

/-!
# Paths — one branch of a data model

A data model is an object.  A path names a branch of it by object keys; arrays and scalars are
leaves.  `set` writes one branch and leaves its siblings alone; `get?` follows a branch.

Main lemmas: `get?_set_self` (the value written is found), `set_nil` (a path without segments writes
nothing).
-/

namespace UiSurface

/-- The tree of values behind a surface. -/
abbrev DataModel := Record Json

namespace Path

/-- The pieces of a path between slashes, empty ones left out (`split_path`): `/a//b` and `a/b` are
one path. -/
def segments (path : String) : List String :=
  ((Text.splitAt '/' path.toList).filter (fun piece => !piece.isEmpty)).map String.ofList

/-- The pieces of a path between slashes, empty ones kept. -/
def pieces (path : String) : List String := (Text.splitAt '/' path.toList).map String.ofList

end Path

namespace DataModel

/-- Follows keys through objects.  An array or a scalar on the way ends the walk. -/
def follow? : Json → List String → Option Json
  | v, [] => some v
  | .obj members, key :: keys => match Record.get? members key with
    | some child => follow? child keys
    | none => none
  | _, _ :: _ => none

/-- The value at the end of a list of keys (`get_at_path`). -/
def get? (model : DataModel) (keys : List String) : Option Json := follow? (.obj model) keys

/-- The object under a key; anything that is not an object counts as an empty one. -/
def childObject (model : DataModel) (key : String) : DataModel :=
  match Record.get? model key with
  | some (.obj members) => members
  | _ => []

/-- Writes a value at the end of a list of keys (`set_at_path`).  What is missing on the way is made
an object, and what is no object is replaced by one.  Without keys nothing is written. -/
def set (model : DataModel) : List String → Json → DataModel
  | [], _ => model
  | [key], value => Record.put model key value
  | key :: keys, value => Record.put model key (.obj (set (childObject model key) keys value))

@[simp] theorem set_nil (model : DataModel) (value : Json) : set model [] value = model := by
  cases model <;> rfl

/-- What is written at a path is found there. -/
theorem get?_set_self (model : DataModel) (key : String) (keys : List String) (value : Json) :
    get? (set model (key :: keys) value) (key :: keys) = some value := by
  induction keys generalizing model key with
  | nil => simp [set, get?, follow?]
  | cons next rest ih =>
    -- one key further in, where the object was made if it was not there
    have := ih (childObject model key) next
    simp only [get?] at this
    simp [set, get?, follow?] at this ⊢
    exact this

end DataModel

end UiSurface
