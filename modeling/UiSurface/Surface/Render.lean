import UiSurface.Surface.Basic

/-!
# Showing a surface — as a tree, and as an outline

The tree has a node for every visit of the walk from the root, with every reference resolved.  The
outline is the same walk as indented lines.  Both are functions of the surface and of the time.
-/

namespace UiSurface

/-- A component as it is shown. -/
inductive Node where
  | mk (id type : String) (text label : Option String) (style labelStyle : Record Json)
      (action : Option Action) (extensions : Record Json) (children : List Node)

namespace Node

mutual

/-- A node as JSON. -/
def encode : Node → Json
  | mk id type text label style labelStyle action extensions children =>
    .obj ([("id", .str id), ("component", .str type)] ++
      Component.member? "text" (text.map .str) ++ Component.member? "label" (label.map .str) ++
      [("style", .obj style), ("labelStyle", .obj labelStyle)] ++
      Component.member? "action" (action.map Component.encodeAction) ++
      [("extensions", .obj extensions), ("children", .arr (encodeAll children))])

def encodeAll : List Node → List Json
  | [] => []
  | n :: ns => encode n :: encodeAll ns

end

mutual

/-- The ids of a tree in pre-order, each with its depth. -/
def preorder (depth : Nat) : Node → List (String × Nat)
  | mk id _ _ _ _ _ _ _ children => (id, depth) :: preorderAll (depth + 1) children

def preorderAll (depth : Nat) : List Node → List (String × Nat)
  | [] => []
  | n :: ns => preorder depth n ++ preorderAll depth ns

end

end Node

namespace Surface

/-! ## The tree -/

/-- The style of a component with its references resolved. -/
def resolvedStyle (s : Surface) (style : Option (Record Json)) :
    Except TooManyDigits (Record Json) :=
  s.tokens.resolveStyle (style.getD [])

/-- The tree below a component (`_render_node`).  A child that stands on the branch is left out. -/
def nodeFrom (s : Surface) (now : Stamp) :
    Nat → List String → Component → Except TooManyDigits Node
  -- a branch is never longer than the table, so this is not reached
  | 0, _, c => .ok (.mk c.id c.type none none [] [] none [] [])
  | fuel + 1, branch, c => do
    let style ← s.resolvedStyle c.style
    let labelStyle ← s.resolvedStyle c.labelStyle
    let below := (s.components.children c).filter (fun child => !branch.contains child.id)
    let children ← below.mapM (fun child => nodeFrom s now fuel (child.id :: branch) child)
    return .mk c.id c.type (c.text.map (s.resolveText now)) (c.label.map (s.resolveText now))
      style labelStyle c.action c.extensions children

/-- The tree of a surface (`render_tree`); none without a root. -/
def renderTree (s : Surface) (now : Stamp) : Except TooManyDigits (Option Node) :=
  match s.root? with
  | some root => (s.nodeFrom now s.components.length [root.id] root).map some
  | none => .ok none

/-! ## The outline -/

/-- The quoted text of a line: the text of the component, or its label if it has no text. -/
def outlineText (s : Surface) (now : Stamp) (c : Component) : String :=
  match c.text, c.label with
  | some text, _ | none, some text => " \"" ++ s.resolveText now text ++ "\""
  | none, none => ""

/-- The line of a component at a depth. -/
def outlineLine (s : Surface) (now : Stamp) (c : Component) (depth : Nat) : String :=
  String.ofList (List.replicate (2 * depth) ' ') ++ c.type ++ "#" ++ c.id ++ s.outlineText now c ++
    (match c.action with
      | some action => " -> " ++ action.event
      | none => "")

/-- The outline of a surface (`render_text`). -/
def renderText (s : Surface) (now : Stamp) : String :=
  if s.isRenderable then
    String.intercalate "\n" ((s.components.walk s.rootId).map (fun v => s.outlineLine now v.1 v.2))
  else "(surface '" ++ s.id ++ "' has no root component)"

end Surface

end UiSurface
