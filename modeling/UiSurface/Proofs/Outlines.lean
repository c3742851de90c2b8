import UiSurface.Proofs.Resolving
import UiSurface.Proofs.Walks

/-!
# Trees, walks and outlines

A surface is gone through in three ways: the walk through its table, the tree that is made of it, and the
outline.  The tree cuts cycles on its own, and the outline resolves texts on its own.  They agree: node by
node the tree shows what the walk visits, and the lines of the outline can be read off the tree.

Texts are resolved with their digits counted or without.  `nodeFromWith` makes the tree for any way to
resolve them, so that both are told by one induction.

Main lemmas: `nodeFromWith_shows_visit` (the nodes of a tree, one by one, are what the recursion of the walk
visits), `Node.preorder_eq_visits`, `Surface.traversals_agree`.
-/

namespace UiSurface

namespace Node

/-! ## Reading a tree -/

mutual

/-- The nodes of a tree in pre-order, each with its depth. -/
def visits (depth : Nat) : Node → List (Node × Nat)
  | mk id type text label style labelStyle action extensions children =>
    (mk id type text label style labelStyle action extensions children, depth) ::
      visitsAll (depth + 1) children

def visitsAll (depth : Nat) : List Node → List (Node × Nat)
  | [] => []
  | n :: ns => visits depth n ++ visitsAll depth ns

end

def id : Node → String
  | mk id _ _ _ _ _ _ _ _ => id

/-- The line of a node at a depth: two spaces for each step, type and id, then its text in quotes, or its
label if it has no text, then the event of its action. -/
def line (depth : Nat) : Node → String
  | mk id type text label _ _ action _ _ =>
    String.ofList (List.replicate (2 * depth) ' ') ++ type ++ "#" ++ id ++
      (match text, label with
        | some shown, _ | none, some shown => " \"" ++ shown ++ "\""
        | none, none => "") ++
      (match action with
        | some action => " -> " ++ action.event
        | none => "")

/-- The outline of a tree: a line for each node, in pre-order. -/
def outline (tree : Node) : String :=
  String.intercalate "\n" ((tree.visits 0).map fun v => v.1.line v.2)

/-- The nodes of several trees are those of each. -/
theorem visitsAll_eq (depth : Nat) (nodes : List Node) :
    visitsAll depth nodes = nodes.flatMap (visits depth) := by
  induction nodes with
  | nil => rfl
  | cons n ns ih => rw [visitsAll, ih, List.flatMap_cons]

mutual

/-- The pre-order that is told is that of the nodes. -/
theorem preorder_eq_visits (depth : Nat) (tree : Node) :
    tree.preorder depth = (tree.visits depth).map fun v => (v.1.id, v.2) := by
  cases tree with
  | mk id type text label style labelStyle action extensions children =>
    rw [preorder, visits, List.map_cons, preorderAll_eq_visitsAll]
    rfl

theorem preorderAll_eq_visitsAll (depth : Nat) (nodes : List Node) :
    preorderAll depth nodes = (visitsAll depth nodes).map fun v => (v.1.id, v.2) := by
  cases nodes with
  | nil => rfl
  | cons n ns =>
    rw [preorderAll, visitsAll, List.map_append, preorder_eq_visits, preorderAll_eq_visitsAll]

end

/-- A node shows a component, with its text and its label resolved in a way that may fail. -/
inductive Shows (resolve : String → Except TooManyDigits String) (c : Component) : Node → Prop
  | intro {text label : Option String} (style labelStyle extensions : Record Json)
      (children : List Node) (htext : c.text.mapM resolve = .ok text)
      (hlabel : c.label.mapM resolve = .ok label) :
      Shows resolve c (.mk c.id c.type text label style labelStyle c.action extensions children)

section

variable {resolve : String → Except TooManyDigits String}

/-- A node that shows a component has its id. -/
theorem Shows.id_eq {c : Component} {n : Node} (h : Shows resolve c n) : n.id = c.id := by
  cases h
  rfl

/-- A node shows the component of a visit, at the same depth. -/
def ShowsVisit (resolve : String → Except TooManyDigits String) (v : Component × Nat) (w : Node × Nat) :
    Prop := Shows resolve v.1 w.1 ∧ v.2 = w.2

/-- What can be read off a node as well as off the component that it shows is the same for all nodes. -/
theorem map_eq_of_shows {β : Type} {f : Component → Nat → β} {g : Node → Nat → β}
    (hfg : ∀ c n depth, Shows resolve c n → f c depth = g n depth) {visited : List (Component × Nat)}
    {nodes : List (Node × Nat)} (h : List.Forall₂ (ShowsVisit resolve) visited nodes) :
    visited.map (fun v => f v.1 v.2) = nodes.map fun w => g w.1 w.2 := by
  rw [← List.forall₂_eq_eq_eq, List.forall₂_map_left_iff, List.forall₂_map_right_iff]
  refine h.imp ?_
  rintro v w ⟨hshows, hdepth⟩
  rw [hfg v.1 w.1 v.2 hshows, hdepth]

end

end Node

/-! ## Making a tree -/

/-- What a step makes of a list, item by item. -/
theorem Fallible.forall₂_of_mapM {ε α β : Type} {f : α → Except ε β} {as : List α} {bs : List β}
    (h : as.mapM f = .ok bs) : List.Forall₂ (fun a b => a ∈ as ∧ f a = .ok b) as bs := by
  induction as generalizing bs with
  | nil =>
    obtain rfl : [] = bs := Except.ok.inj h
    exact List.Forall₂.nil
  | cons a as ih =>
    simp only [List.mapM_cons, bind_eq_ok] at h
    obtain ⟨b, hb, rest, hrest, hbs⟩ := h
    obtain rfl : b :: rest = bs := Except.ok.inj hbs
    refine List.Forall₂.cons ⟨List.mem_cons_self, hb⟩ ((ih hrest).imp ?_)
    rintro a' b' ⟨ha', hb'⟩
    exact ⟨List.mem_cons_of_mem _ ha', hb'⟩

theorem Fallible.exists_of_mapM_some {ε α β : Type} {f : α → Except ε β} {a : α} {o : Option β}
    (h : (some a).mapM f = .ok o) : ∃ b, f a = .ok b ∧ o = some b := by
  rw [Option.mapM_some] at h
  obtain ⟨b, hb, rfl⟩ := map_eq_ok.mp (show (f a).map some = .ok o from h)
  exact ⟨b, hb, rfl⟩

namespace Surface

/-- The tree below a component, for a way to resolve texts. -/
def nodeFromWith (x : Surface) (resolve : String → Except TooManyDigits String) :
    Nat → List String → Component → Except TooManyDigits Node
  | 0, _, c => .ok (.mk c.id c.type none none [] [] none [] [])
  | fuel + 1, branch, c => do
    let text ← c.text.mapM resolve
    let label ← c.label.mapM resolve
    let style ← x.resolvedStyle c.style
    let labelStyle ← x.resolvedStyle c.labelStyle
    let below := (x.components.children c).filter (fun child => !branch.contains child.id)
    let children ← below.mapM (fun child => nodeFromWith x resolve fuel (child.id :: branch) child)
    return .mk c.id c.type text label style labelStyle c.action c.extensions children

/-- Where no text is refused, a text that may be missing is resolved if it is there. -/
theorem mapM_resolveText (x : Surface) (now : Stamp) (o : Option String) :
    o.mapM (fun text => Except.ok (ε := TooManyDigits) (x.resolveText now text)) =
      .ok (o.map (x.resolveText now)) := by
  cases o <;> rfl

/-- The tree of a surface is the one for its way to resolve texts. -/
theorem nodeFrom_eq_with (x : Surface) (now : Stamp) (fuel : Nat) (branch : List String)
    (c : Component) :
    x.nodeFrom now fuel branch c =
      x.nodeFromWith (fun text => .ok (x.resolveText now text)) fuel branch c := by
  induction fuel generalizing branch c with
  | zero => rfl
  | succ fuel ih =>
    rw [nodeFrom, nodeFromWith, mapM_resolveText, mapM_resolveText]
    simp only [ih]
    rfl

/-- So is the tree where digits are counted. -/
theorem nodeFromCounted_eq_with (x : Surface) (now : Stamp) (fuel : Nat) (branch : List String)
    (c : Component) :
    x.nodeFromCounted now fuel branch c =
      x.nodeFromWith (x.resolveTextCounted now) fuel branch c := by
  induction fuel generalizing branch c with
  | zero => rfl
  | succ fuel ih => simp only [nodeFromCounted, nodeFromWith, ih]

/-- The nodes of the tree below a component are what the recursion of the walk visits from there, one by
one and at the same depths. -/
theorem nodeFromWith_shows_visit {x : Surface} {resolve : String → Except TooManyDigits String}
    {fuel : Nat} {branch : List String} {c : Component} {tree : Node}
    (hfuel : x.components.room branch < fuel) (h : x.nodeFromWith resolve fuel branch c = .ok tree)
    (depth : Nat) :
    List.Forall₂ (Node.ShowsVisit resolve) (x.components.visit branch c depth)
      (tree.visits depth) := by
  induction fuel generalizing branch c tree depth with
  | zero => cases hfuel
  | succ fuel ih =>
    simp only [nodeFromWith, Fallible.bind_eq_ok] at h
    obtain ⟨text, htext, label, hlabel, style, -, labelStyle, -, children, hchildren, htree⟩ := h
    obtain rfl := Except.ok.inj htree
    rw [ComponentTable.visit_eq, Node.visits, Node.visitsAll_eq]
    refine List.Forall₂.cons ⟨.intro _ _ _ _ htext hlabel, rfl⟩ ?_
    -- the walk passes over what stands on the branch, the tree has filtered it out
    have hbelow : ((x.components.children c).flatMap fun child =>
        if child.id ∈ branch then []
        else x.components.visit (child.id :: branch) child (depth + 1)) =
        ((x.components.children c).filter fun child => !branch.contains child.id).flatMap fun child =>
          x.components.visit (child.id :: branch) child (depth + 1) := by
      induction x.components.children c with
      | nil => rfl
      | cons child rest ihrest =>
        by_cases hbranch : child.id ∈ branch <;> simp [hbranch, ihrest]
    rw [hbelow]
    refine List.rel_flatMap (Fallible.forall₂_of_mapM hchildren) ?_
    rintro child node ⟨hchild, hnode⟩
    obtain ⟨hchild, hbranch⟩ := List.mem_filter.mp hchild
    have hbranch : child.id ∉ branch := by simpa using hbranch
    have hroom := ComponentTable.room_lt (ComponentTable.mem_values_of_mem_children hchild) hbranch
    exact ih (by omega) hnode (depth + 1)

/-! ## Lines -/

section

variable {x : Surface} {now : Stamp} {c : Component} {n : Node}

/-- The line of a component is that of the node that shows it. -/
theorem outlineLine_of_shows (h : Node.Shows (fun text => .ok (x.resolveText now text)) c n)
    (depth : Nat) : x.outlineLine now c depth = n.line depth := by
  obtain ⟨_, _, _, _, htext, hlabel⟩ := h
  rw [mapM_resolveText] at htext hlabel
  obtain rfl := Except.ok.inj htext
  obtain rfl := Except.ok.inj hlabel
  unfold outlineLine outlineText Node.line
  cases c.text with
  | some text => rfl
  | none => cases c.label <;> rfl

theorem outlineLineCounted_of_shows (h : Node.Shows (x.resolveTextCounted now) c n) (depth : Nat) :
    x.outlineLineCounted now c depth = .ok (n.line depth) := by
  obtain ⟨_, _, _, _, htext, hlabel⟩ := h
  unfold outlineLineCounted outlineTextCounted Node.line
  -- the text is shown, or else the label, or else nothing
  cases ht : c.text with
  | some text =>
    obtain ⟨shown, hshown, rfl⟩ := Fallible.exists_of_mapM_some (ht ▸ htext)
    simp only [hshown]
    rfl
  | none =>
    rw [ht] at htext
    obtain rfl := Except.ok.inj htext
    cases hl : c.label with
    | some text =>
      obtain ⟨shown, hshown, rfl⟩ := Fallible.exists_of_mapM_some (hl ▸ hlabel)
      simp only [hshown]
      rfl
    | none =>
      rw [hl] at hlabel
      obtain rfl := Except.ok.inj hlabel
      rfl

end

/-! ## Three ways through a surface -/

/-- A walk is empty just if there is no root. -/
theorem walk_eq_nil_iff (x : Surface) : x.components.walk x.rootId = [] ↔ x.root? = none := by
  rw [ComponentTable.walk_eq_visit, root?]
  cases Record.get? x.components x.rootId with
  | none => simp
  | some c =>
    show x.components.visit [c.id] c 0 = [] ↔ _
    rw [ComponentTable.visit_eq]
    simp

/-- The nodes of a tree from the root are what the walk visits, one by one and at the same depths. -/
theorem shows_walk_of_root {x : Surface} {resolve : String → Except TooManyDigits String}
    {root : Component} {tree : Node} (hroot : x.root? = some root)
    (h : x.nodeFromWith resolve x.components.length [root.id] root = .ok tree) :
    List.Forall₂ (Node.ShowsVisit resolve) (x.components.walk x.rootId) (tree.visits 0) := by
  have hwalk : x.components.walk x.rootId = x.components.visit [root.id] root 0 := by
    rw [ComponentTable.walk_eq_visit, show Record.get? x.components x.rootId = some root from hroot]
  rw [hwalk]
  exact nodeFromWith_shows_visit
    (ComponentTable.room_singleton_lt (ComponentTable.mem_values_of_get? hroot)) h 0

/-- The pre-order of the tree is the walk. -/
theorem preorder_eq_walk {resolve : String → Except TooManyDigits String}
    {visited : List (Component × Nat)} {tree : Node}
    (h : List.Forall₂ (Node.ShowsVisit resolve) visited (tree.visits 0)) :
    tree.preorder 0 = visited.map fun v => (v.1.id, v.2) := by
  have hids : ∀ c n (depth : Nat), Node.Shows resolve c n → (c.id, depth) = (n.id, depth) :=
    fun c n depth hshows => by rw [hshows.id_eq]
  rw [Node.preorder_eq_visits, Node.map_eq_of_shows hids h]

/-- The tree of a surface, the walk from its root and its outline agree, with the digits of the integers
that texts are resolved to counted or not.  The tree has the ids of the walk, at the same depths and in the
same order.  The outline is that of the tree.  There is no tree exactly if the walk visits nothing. -/
theorem traversals_agree (x : Surface) (now : Stamp) :
    (∀ tree, x.renderTree now = .ok (some tree) →
      tree.preorder 0 = (x.components.walk x.rootId).map (fun v => (v.1.id, v.2)) ∧
      x.renderText now = tree.outline) ∧
    (x.renderTree now = .ok none ↔ x.components.walk x.rootId = []) ∧
    (∀ tree, x.renderTreeCounted now = .ok (some tree) →
      tree.preorder 0 = (x.components.walk x.rootId).map (fun v => (v.1.id, v.2)) ∧
      x.renderTextCounted now = .ok tree.outline) ∧
    (x.renderTreeCounted now = .ok none ↔ x.components.walk x.rootId = []) := by
  rw [walk_eq_nil_iff]
  unfold renderTree renderTreeCounted renderText renderTextCounted
  cases hroot : x.root? with
  | none => simp
  | some root =>
    have hrenderable : x.isRenderable = true := Option.isSome_iff_exists.mpr ⟨root, hroot⟩
    simp only [hrenderable, if_true, nodeFrom_eq_with, nodeFromCounted_eq_with, Fallible.map_eq_ok]
    refine ⟨?_, by simp, ?_, by simp⟩
    · rintro tree ⟨_, htree, ⟨⟩⟩
      have hshows := shows_walk_of_root hroot htree
      refine ⟨preorder_eq_walk hshows, ?_⟩
      rw [Node.map_eq_of_shows (fun c n depth hc => outlineLine_of_shows hc depth) hshows,
        Node.outline]
    · rintro tree ⟨_, htree, ⟨⟩⟩
      have hshows := shows_walk_of_root hroot htree
      refine ⟨preorder_eq_walk hshows, ?_⟩
      -- the line of a component is the line of its node
      have hlines : (x.components.walk x.rootId).map (fun v => x.outlineLineCounted now v.1 v.2) =
          ((tree.visits 0).map fun v => v.1.line v.2).map .ok := by
        rw [Node.map_eq_of_shows (fun c n depth hc => outlineLineCounted_of_shows hc depth) hshows,
          List.map_map]
        rfl
      exact ⟨_, Fallible.mapM_eq_ok hlines, rfl⟩

/-- A card with a text, and with a button that has a label and lists the card again. -/
theorem cyclic_card_agrees :
    let card : Component :=
      ⟨"root", "Card", some ⟨some ["hello", "go", "ghost"], none⟩, none, none, none, none, none, []⟩
    let hello : Component :=
      ⟨"hello", "Text", none, some "Hello $\x7b/n\x7d!", some "unseen", none, none, none, []⟩
    let go : Component := ⟨"go", "Button", some ⟨some ["hello", "root"], none⟩, none, some "$\x7b/n\x7d",
      some ⟨"open", none⟩, none, none, []⟩
    let x : Surface := ⟨"tile", "root", [("root", card), ("go", go), ("hello", hello)],
      [("n", .ofInt 7)], [], .null, .null⟩
    let now : Stamp := ⟨2026, 10, 19, 15, 7⟩
    ∃ tree, x.renderTree now = .ok (some tree) ∧
      tree.preorder 0 = [("root", 0), ("hello", 1), ("go", 1), ("hello", 2)] ∧
      tree.outline = "Card#root\n  Text#hello \"Hello $\x7b/n\x7d!\"\n  Button#go \"7\" -> open\n" ++
        "    Text#hello \"Hello $\x7b/n\x7d!\"" := by
  intro card hello go x now
  obtain ⟨hagree, hnone, -, -⟩ := traversals_agree x now
  have hids : (x.components.walk x.rootId).map (fun v => (v.1.id, v.2)) =
      [("root", 0), ("hello", 1), ("go", 1), ("hello", 2)] := by decide +kernel
  have hwalk : x.components.walk x.rootId ≠ [] := by
    intro h
    rw [h] at hids
    cases hids
  have hstyles : ∀ v ∈ x.components.walk x.rootId, v.1.styleValues = [] := by decide +kernel
  obtain ⟨tree?, htree⟩ : ∃ tree?, x.renderTree now = .ok tree? := by
    rw [exists_renderTree_iff]
    intro v hv value hvalue
    rw [hstyles v hv] at hvalue
    cases hvalue
  cases tree? with
  | none => exact absurd (hnone.mp htree) hwalk
  | some tree =>
    obtain ⟨hpreorder, houtline⟩ := hagree tree htree
    refine ⟨tree, htree, hpreorder.trans hids, ?_⟩
    rw [← houtline]
    decide +kernel

end Surface

end UiSurface
