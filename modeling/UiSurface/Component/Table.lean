import UiSurface.Component.Basic

/-!
# Component tables — components by id, and the walk from a root

A later definition of an id replaces the earlier one whole and keeps its place.  Children are named
by id; an id without a definition is dangling, which is reported and otherwise passed over.

Main lemma: `get?_upsert` (the last definition of an id is the one that is found).
-/

namespace UiSurface

/-- Components by id, in the order of their first definition. -/
abbrev ComponentTable := Record Component

namespace ComponentTable

/-- Defines a component under its own id. -/
def upsert (table : ComponentTable) (c : Component) : ComponentTable := Record.put table c.id c

def upsertAll (table : ComponentTable) (cs : List Component) : ComponentTable :=
  cs.foldl upsert table

def ofList (cs : List Component) : ComponentTable := upsertAll [] cs

/-- Takes out what is defined under an id, and says whether anything was. -/
def remove (table : ComponentTable) (id : String) : ComponentTable × Bool :=
  (Record.erase table id, Record.has table id)

/-- A definition is found under its own id, and nothing else changes. -/
theorem get?_upsert (table : ComponentTable) (c : Component) (id : String) :
    Record.get? (upsert table c) id = if c.id = id then some c else Record.get? table id :=
  Record.get?_put table c.id id c

/-- The children of a component that are defined, in the order listed. -/
def children (table : ComponentTable) (c : Component) : List Component :=
  c.childIds.filterMap (Record.get? table)

/-- The listed children of a component that are not defined, in the order listed. -/
def missingChildren (table : ComponentTable) (c : Component) : List String :=
  c.childIds.filter (fun id => !Record.has table id)

/-- Every reference to a child that is not defined (`dangling_references`): the parent and the
child, in table order. -/
def dangling (table : ComponentTable) : List (String × String) :=
  (Record.values table).flatMap (fun c => (missingChildren table c).map (fun id => (c.id, id)))

/-! ## The walk -/

/-- Visits a component and what is below it, depth first, each with its depth.  What stands on the
branch from the root is not visited again, so a branch is no longer than the table, and `fuel` never
runs out before a branch ends. -/
def walkFrom (table : ComponentTable) : Nat → List String → Component → Nat → List (Component × Nat)
  | 0, _, _, _ => []
  | fuel + 1, branch, c, depth =>
    (c, depth) :: (children table c).flatMap (fun child =>
      if branch.contains child.id then []
      else walkFrom table fuel (child.id :: branch) child (depth + 1))

/-- Visits everything reachable from the component with an id, in pre-order. -/
def walk (table : ComponentTable) (root : String) : List (Component × Nat) :=
  match Record.get? table root with
  | some c => walkFrom table table.length [c.id] c 0
  | none => []

end ComponentTable

end UiSurface
