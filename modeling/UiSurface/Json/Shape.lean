import UiSurface.Json.Writer

/-!
# Shapes — taking a value apart

A value is taken as it comes.  Where it has another shape than is asked of it, the fault says what
was asked of which kind of value.
-/

namespace UiSurface

/-- Something was asked of a value that it does not have. -/
inductive ShapeFault where
  /-- the object has no such member -/
  | noMember (key : String)
  /-- a member was asked of what is no object -/
  | notObject (v : Json)
  /-- a member that may be absent was asked of what is no object -/
  | noMembers (v : Json)
  /-- a member was to be written to what is no object -/
  | notWritable (v : Json)
  /-- all members were asked of what is no object -/
  | noEntries (v : Json)
  | noItems (v : Json)
  | noLength (v : Json)
  | noCell (v : Json)
  /-- what is no name of anything was looked up -/
  | noKey (v : Json)
deriving DecidableEq

def ShapeFault.message : ShapeFault → String
  | noMember key => Text.quote key
  | notObject (.str _) => "string indices must be integers, not 'str'"
  | notObject (.arr _) => "list indices must be integers or slices, not str"
  | notObject v => "'" ++ v.kindName ++ "' object is not subscriptable"
  | noMembers v => "'" ++ v.kindName ++ "' object has no attribute 'get'"
  | notWritable (.arr _) => "list indices must be integers or slices, not str"
  | notWritable v => "'" ++ v.kindName ++ "' object does not support item assignment"
  | noEntries v => "'" ++ v.kindName ++ "' object has no attribute 'items'"
  | noItems v => "'" ++ v.kindName ++ "' object is not iterable"
  | noLength v => "object of type '" ++ v.kindName ++ "' has no len()"
  | noCell v => "unsupported format string passed to " ++ v.kindName ++ ".__format__"
  | noKey v => "unhashable type: '" ++ v.kindName ++ "'"

namespace Shape

def member (v : Json) (key : String) : Except ShapeFault Json :=
  match v with
  | .obj members => match Record.get? members key with
    | some value => .ok value
    | none => .error (.noMember key)
  | v => .error (.notObject v)

/-- A member of an object, or a default. -/
def memberOr (v : Json) (key : String) (default : Json) : Except ShapeFault Json :=
  match v with
  | .obj members => .ok ((Record.get? members key).getD default)
  | v => .error (.noMembers v)

/-- What a value lists: the items of an array, the names of an object, the characters of a
string. -/
def items (v : Json) : Except ShapeFault (List Json) :=
  match v with
  | .arr items => .ok items
  | .obj members => .ok ((Record.keys members).map .str)
  | .str s => .ok (s.toList.map (fun c => .str (String.ofList [c])))
  | v => .error (.noItems v)

/-- How much a value lists. -/
def length (v : Json) : Except ShapeFault Nat :=
  match items v with
  | .ok items => .ok items.length
  | .error _ => .error (.noLength v)

/-- Looks a value up as a name.  Nothing stands under a value that is no string, and an array or an
object may not be asked for. -/
def lookUp {α : Type} (r : Record α) (v : Json) : Except ShapeFault (Option α) :=
  match v with
  | .str key => .ok (Record.get? r key)
  | .arr _ | .obj _ => .error (.noKey v)
  | .null | .bool _ | .num _ => .ok none

/-- Whether a value amounts to nothing: null, false, zero, or empty. -/
def isNothing : Json → Bool
  | .null => true
  | .bool b => !b
  | .num (.int n) => n == 0
  | .num (.float x) => match x.shape with
    | .finite _ m _ => m == 0
    | .nan | .infinite _ => false
  | .str s => s.isEmpty
  | .arr items => items.isEmpty
  | .obj members => members.isEmpty

end Shape

end UiSurface
