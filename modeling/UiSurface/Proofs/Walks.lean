import Mathlib.Data.List.Forall2
import Mathlib.Data.List.Nodup
import Mathlib.Logic.Relation
import UiSurface.Proofs.Records

/-!
# Walks — what the walk through a table visits

The walk goes into a child unless its id stands on the branch.  Each step down takes an id that was not on
the branch before, so branches end: `visit` is the same recursion without a bound, and the bound of the
walk is never reached.

A path is told by the positions of the child entries that it follows, and `trail?` gives the components
along it.  The walk has one entry for each simple path, one on which no id occurs twice.  In pre-order a path
comes before those that go on from it, and of two that part, first the one that takes the earlier entry: this is
the order of lists of numbers.

What can be reached at all can be reached by a simple path.  So what is cut off on one branch is visited
on another.

Main lemmas: `walkFrom_eq_visit` (the walk ends by itself), `mem_pathsFrom_iff` and `pairwise_pathsFrom`
(the simple paths, in order), `visit_follows_paths` (one entry for each), `exists_simple_trail` (a way
without detours), `walk_visits_simple_paths`.
-/

namespace UiSurface.ComponentTable

/-! ## The walk ends -/

/-- How many components of a table do not stand on a branch. -/
def room (table : ComponentTable) (branch : List String) : Nat :=
  ((Record.values table).filter fun c => !branch.contains c.id).length

/-- There is less room on a longer branch. -/
theorem room_lt {table : ComponentTable} {branch : List String} {c : Component}
    (hc : c ∈ Record.values table) (hbranch : c.id ∉ branch) :
    room table (c.id :: branch) < room table branch := by
  have hfilter : (Record.values table).filter (fun d => !(c.id :: branch).contains d.id) =
      ((Record.values table).filter fun d => !branch.contains d.id).filter fun d => d.id != c.id := by
    rw [List.filter_filter]
    refine List.filter_congr fun d _ => ?_
    simp [bne, Bool.beq_eq_decide_eq]
  rw [room, hfilter, room, List.length_filter_lt_length_iff_exists]
  exact ⟨c, List.mem_filter.mpr ⟨hc, by simpa using hbranch⟩, by simp⟩

theorem mem_values_of_get? {table : ComponentTable} {id : String} {c : Component}
    (h : Record.get? table id = some c) : c ∈ Record.values table :=
  List.mem_map_of_mem (Record.mem_of_get?_eq_some h)

theorem mem_values_of_mem_children {table : ComponentTable} {c child : Component}
    (h : child ∈ children table c) : child ∈ Record.values table := by
  obtain ⟨id, -, hget⟩ := List.mem_filterMap.mp h
  exact mem_values_of_get? hget

/-- The recursion of the walk without a bound: it goes on for as long as there is something to visit. -/
def visit (table : ComponentTable) (branch : List String) (c : Component) (depth : Nat) :
    List (Component × Nat) :=
  (c, depth) :: (children table c).attach.flatMap fun child =>
    if child.1.id ∈ branch then [] else visit table (child.1.id :: branch) child.1 (depth + 1)
termination_by room table branch
decreasing_by exact room_lt (mem_values_of_mem_children child.2) ‹_›

/-- The walk goes to the children that are not on the branch. -/
theorem visit_eq (table : ComponentTable) (branch : List String) (c : Component) (depth : Nat) :
    visit table branch c depth = (c, depth) :: (children table c).flatMap fun child =>
      if child.id ∈ branch then [] else visit table (child.id :: branch) child (depth + 1) := by
  rw [visit]
  congr 1
  rw [List.flatMap_subtype (g := fun child => if child.id ∈ branch then []
    else visit table (child.id :: branch) child (depth + 1)) fun _ _ => rfl, List.unattach_attach]

/-- What holds of a branch and its end if it holds of all longer branches holds of every branch. -/
theorem branchInduction {table : ComponentTable} {P : List String → Component → Prop}
    (step : ∀ branch c, (∀ child ∈ children table c, child.id ∉ branch → P (child.id :: branch) child) →
      P branch c) (branch : List String) (c : Component) : P branch c := by
  induction hroom : room table branch using Nat.strongRecOn generalizing branch c with
  | _ n ih =>
    refine step branch c fun child hchild hbranch => ?_
    have hlt := room_lt (mem_values_of_mem_children hchild) hbranch
    exact ih _ (hroom ▸ hlt) _ child rfl

/-- A bound that leaves room for the branch does not matter. -/
theorem walkFrom_eq_visit {table : ComponentTable} {branch : List String} {fuel : Nat}
    (hfuel : room table branch < fuel) (c : Component) (depth : Nat) :
    walkFrom table fuel branch c depth = visit table branch c depth := by
  induction fuel generalizing branch c depth with
  | zero => cases hfuel
  | succ fuel ih =>
    rw [walkFrom, visit_eq]
    congr 1
    refine List.flatMap_congr fun child hchild => ?_
    by_cases hbranch : child.id ∈ branch
    · simp [hbranch]
    · have hroom := room_lt (mem_values_of_mem_children hchild) hbranch
      have hwalk : walkFrom table fuel (child.id :: branch) child (depth + 1) =
          visit table (child.id :: branch) child (depth + 1) := ih (by omega) child (depth + 1)
      simp [hbranch, hwalk]

theorem room_singleton_lt {table : ComponentTable} {c : Component} (hc : c ∈ Record.values table) :
    room table [c.id] < table.length := by
  have hlength : (Record.values table).length = table.length := List.length_map ..
  rw [room, ← hlength, List.length_filter_lt_length_iff_exists]
  exact ⟨c, hc, by simp⟩

/-- The walk is the recursion without a bound. -/
theorem walk_eq_visit (table : ComponentTable) (root : String) :
    walk table root =
      match Record.get? table root with
      | some c => visit table [c.id] c 0
      | none => [] := by
  unfold walk
  cases hroot : Record.get? table root with
  | none => rfl
  | some c => exact walkFrom_eq_visit (room_singleton_lt (mem_values_of_get? hroot)) c 0

/-! ## Simple paths -/

/-- The child that a component lists at a position, if it is defined. -/
def childAt? (table : ComponentTable) (c : Component) (position : Nat) : Option Component :=
  c.childIds[position]?.bind (Record.get? table)

/-- The children are those at the positions that are defined. -/
theorem children_eq (table : ComponentTable) (c : Component) :
    children table c = (List.range c.childIds.length).filterMap (childAt? table c) := by
  have hrange : ∀ ids : List String, ids.filterMap (Record.get? table) =
      (List.range ids.length).filterMap fun i => ids[i]?.bind (Record.get? table) := by
    intro ids
    induction ids with
    | nil => rfl
    | cons id ids ih =>
      rw [List.length_cons, List.range_succ_eq_map, List.filterMap_cons, List.filterMap_cons, ih,
        List.filterMap_map]
      rfl
  exact hrange c.childIds

theorem lt_of_childAt? {table : ComponentTable} {c child : Component} {position : Nat}
    (h : childAt? table c position = some child) : position < c.childIds.length := by
  obtain ⟨id, hid, -⟩ := Option.bind_eq_some_iff.mp h
  exact (List.getElem?_eq_some_iff.mp hid).1

theorem mem_children_of_childAt? {table : ComponentTable} {c child : Component} {position : Nat}
    (h : childAt? table c position = some child) : child ∈ children table c := by
  rw [children_eq]
  exact List.mem_filterMap.mpr ⟨position, List.mem_range.mpr (lt_of_childAt? h), h⟩

/-- Visits below a component, by the positions of its children. -/
theorem flatMap_children {β : Type} (table : ComponentTable) (c : Component) (f : Component → List β) :
    (children table c).flatMap f = (List.range c.childIds.length).flatMap fun i =>
      match childAt? table c i with
      | some child => f child
      | none => [] := by
  rw [children_eq, List.filterMap_eq_flatMap_toList, List.flatMap_assoc]
  refine List.flatMap_congr fun i _ => ?_
  cases childAt? table c i <;> simp

/-- The components along a path from a component down, which is the first of them. -/
def trailFrom? (table : ComponentTable) (c : Component) : List Nat → Option (List Component)
  | [] => some [c]
  | position :: path => (childAt? table c position).bind fun child =>
    (trailFrom? table child path).map (c :: ·)

/-- The components along a path from the component with an id. -/
def trail? (table : ComponentTable) (root : String) (path : List Nat) : Option (List Component) :=
  (Record.get? table root).bind fun c => trailFrom? table c path

/-- A path from a root is simple if no id occurs twice along it. -/
def IsSimplePath (table : ComponentTable) (root : String) (path : List Nat) : Prop :=
  ∃ trail, trail? table root path = some trail ∧ (trail.map Component.id).Nodup

/-- The paths from a component down that do not come back to the branch or to themselves. -/
def pathsFrom (table : ComponentTable) (branch : List String) (c : Component) : List (List Nat) :=
  [] :: (List.range c.childIds.length).flatMap fun position =>
    match _hchild : childAt? table c position with
    | some child =>
      if child.id ∈ branch then []
      else (pathsFrom table (child.id :: branch) child).map (position :: ·)
    | none => []
termination_by room table branch
decreasing_by exact room_lt (mem_values_of_mem_children (mem_children_of_childAt? _hchild)) ‹_›

/-- The paths from a component are the empty one and those through its children. -/
theorem pathsFrom_eq (table : ComponentTable) (branch : List String) (c : Component) :
    pathsFrom table branch c = [] :: (List.range c.childIds.length).flatMap fun position =>
      match childAt? table c position with
      | some child =>
        if child.id ∈ branch then []
        else (pathsFrom table (child.id :: branch) child).map (position :: ·)
      | none => [] := by
  rw [pathsFrom]
  congr 1
  refine List.flatMap_congr fun position _ => ?_
  split <;> simp [*]

/-- A path goes on at a child that is not on the branch. -/
theorem cons_mem_pathsFrom_iff {table : ComponentTable} {branch : List String} {c : Component}
    {position : Nat} {path : List Nat} :
    position :: path ∈ pathsFrom table branch c ↔ ∃ child, childAt? table c position = some child ∧
      child.id ∉ branch ∧ path ∈ pathsFrom table (child.id :: branch) child := by
  rw [pathsFrom_eq, List.mem_cons, List.mem_flatMap]
  constructor
  · rintro (h | ⟨i, -, h⟩)
    · cases h
    · -- the position has a child, and the child is not on the branch
      split at h
      · rename_i child hchild
        split at h
        · cases h
        · rename_i hbranch
          obtain ⟨rest, hrest, hpath⟩ := List.mem_map.mp h
          obtain ⟨rfl, rfl⟩ := List.cons.inj hpath
          exact ⟨child, hchild, hbranch, hrest⟩
      · cases h
  · rintro ⟨child, hchild, hbranch, hpath⟩
    right
    refine ⟨position, List.mem_range.mpr (lt_of_childAt? hchild), ?_⟩
    simp only [hchild, if_neg hbranch]
    exact List.mem_map_of_mem hpath

/-- A trail goes on at the child that the path names. -/
theorem trailFrom?_cons_eq_some_iff {table : ComponentTable} {c : Component} {position : Nat}
    {path : List Nat} {trail : List Component} :
    trailFrom? table c (position :: path) = some trail ↔ ∃ child below,
      childAt? table c position = some child ∧ trailFrom? table child path = some below ∧
        trail = c :: below := by
  simp only [trailFrom?, Option.bind_eq_some_iff, Option.map_eq_some_iff]
  constructor
  · rintro ⟨child, hchild, below, hbelow, rfl⟩
    exact ⟨child, below, hchild, hbelow, rfl⟩
  · rintro ⟨child, below, hchild, hbelow, rfl⟩
    exact ⟨child, hchild, below, hbelow, rfl⟩

/-- A trail begins with the component that it is from. -/
theorem exists_eq_cons_of_trailFrom? {table : ComponentTable} {c : Component} {path : List Nat}
    {trail : List Component} (h : trailFrom? table c path = some trail) :
    ∃ below, trail = c :: below := by
  cases path with
  | nil => exact ⟨[], (Option.some.inj h).symm⟩
  | cons position path =>
    obtain ⟨child, below, -, -, rfl⟩ := trailFrom?_cons_eq_some_iff.mp h
    exact ⟨below, rfl⟩

/-- The paths are those whose components behind the first prolong the branch by ids that are new to it
and to each other. -/
theorem mem_pathsFrom_iff {table : ComponentTable} {branch : List String} {c : Component}
    {path : List Nat} (hnodup : branch.Nodup) :
    path ∈ pathsFrom table branch c ↔ ∃ trail, trailFrom? table c path = some trail ∧
      ((trail.tail.map Component.id).reverse ++ branch).Nodup := by
  -- by the path, whose first step puts a child on the branch
  induction path generalizing branch c with
  | nil =>
    rw [pathsFrom_eq]
    simp [trailFrom?, hnodup]
  | cons position path ih =>
    rw [cons_mem_pathsFrom_iff]
    constructor
    · rintro ⟨child, hchild, hbranch, hpath⟩
      obtain ⟨trail, htrail, hids⟩ := (ih (List.nodup_cons.mpr ⟨hbranch, hnodup⟩)).mp hpath
      obtain ⟨below, rfl⟩ := exists_eq_cons_of_trailFrom? htrail
      refine ⟨_, trailFrom?_cons_eq_some_iff.mpr ⟨child, _, hchild, htrail, rfl⟩, ?_⟩
      simpa using hids
    · rintro ⟨trail, htrail, hids⟩
      obtain ⟨child, below, hchild, hbelow, rfl⟩ := trailFrom?_cons_eq_some_iff.mp htrail
      obtain ⟨rest, rfl⟩ := exists_eq_cons_of_trailFrom? hbelow
      have hids : ((rest.map Component.id).reverse ++ child.id :: branch).Nodup := by simpa using hids
      have hbranch := (List.nodup_append.mp hids).2.1
      exact ⟨child, hchild, (List.nodup_cons.mp hbranch).1,
        (ih hbranch).mpr ⟨_, hbelow, hids⟩⟩

/-- The paths come in the order of lists of numbers, none twice. -/
theorem pairwise_pathsFrom (table : ComponentTable) (branch : List String) (c : Component) :
    (pathsFrom table branch c).Pairwise (· < ·) := by
  induction branch, c using branchInduction with
  | step branch c ih =>
    -- what comes through a child begins with the position of the child
    have hhead : ∀ position path, path ∈ (match childAt? table c position with
        | some child =>
          if child.id ∈ branch then []
          else (pathsFrom table (child.id :: branch) child).map (position :: ·)
        | none => []) → ∃ rest, path = position :: rest := by
      intro position path hpath
      split at hpath
      · split at hpath
        · cases hpath
        · obtain ⟨rest, -, rfl⟩ := List.mem_map.mp hpath
          exact ⟨rest, rfl⟩
      · cases hpath
    rw [pathsFrom_eq, List.pairwise_cons, List.pairwise_flatMap]
    refine ⟨?_, ?_, ?_⟩
    · intro path hpath
      obtain ⟨position, -, hpath⟩ := List.mem_flatMap.mp hpath
      obtain ⟨rest, rfl⟩ := hhead position path hpath
      exact List.nil_lt_cons position rest
    · intro position _
      split
      · rename_i child hchild
        split
        · exact List.Pairwise.nil
        · rename_i hbranch
          rw [List.pairwise_map]
          refine (ih child (mem_children_of_childAt? hchild) hbranch).imp fun hlt => ?_
          exact List.cons_lt_cons_iff.mpr (Or.inr ⟨rfl, hlt⟩)
      · exact List.Pairwise.nil
    · -- paths through different children differ in their first step
      refine List.pairwise_lt_range.imp fun {i j} hlt path hpath path' hpath' => ?_
      obtain ⟨rest, rfl⟩ := hhead i path hpath
      obtain ⟨rest', rfl⟩ := hhead j path' hpath'
      exact List.cons_lt_cons_iff.mpr (Or.inl hlt)

/-- A visit has one entry for each path, in the order of the paths: the component at its end, at a depth
of as many steps as the path has. -/
theorem visit_follows_paths (table : ComponentTable) (branch : List String) (c : Component)
    (depth : Nat) :
    List.Forall₂ (fun path v => ∃ trail, trailFrom? table c path = some trail ∧
        trail.getLast? = some v.1 ∧ v.2 = depth + path.length)
      (pathsFrom table branch c) (visit table branch c depth) := by
  induction branch, c using branchInduction generalizing depth with
  | step branch c ih =>
    rw [pathsFrom_eq, visit_eq, flatMap_children]
    refine List.Forall₂.cons ⟨[c], rfl, rfl, rfl⟩ ?_
    -- position by position, the child that is there is visited just if it is not on the branch
    refine List.rel_flatMap (List.forall₂_same.mpr fun position _ => rfl) ?_
    rintro position _ rfl
    dsimp only
    split
    · rename_i child hchild
      by_cases hbranch : child.id ∈ branch
      · simp [hbranch]
      · simp only [if_neg hbranch, List.forall₂_map_left_iff]
        refine (ih child (mem_children_of_childAt? hchild) hbranch (depth + 1)).imp ?_
        rintro path v ⟨trail, htrail, hlast, hdepth⟩
        obtain ⟨below, rfl⟩ := exists_eq_cons_of_trailFrom? htrail
        refine ⟨c :: child :: below, ?_, ?_, ?_⟩
        · exact trailFrom?_cons_eq_some_iff.mpr ⟨child, _, hchild, htrail, rfl⟩
        · rwa [List.getLast?_cons_cons]
        · rw [hdepth, List.length_cons]
          omega
    · exact List.Forall₂.nil

/-! ## What is reached -/

/-- A component that is defined lists a child that is defined as well. -/
def Refers (table : ComponentTable) (parent child : String) : Prop :=
  ∃ c d, Record.get? table parent = some c ∧ child ∈ c.childIds ∧ Record.get? table child = some d

/-- An id is reached from a root that is defined, through references to what is defined. -/
def Reaches (table : ComponentTable) (root id : String) : Prop :=
  Record.has table root = true ∧ Relation.ReflTransGen table.Refers root id

/-- A trail has one component more than its path has steps. -/
theorem length_of_trailFrom? {table : ComponentTable} {c : Component} {path : List Nat}
    {trail : List Component} (h : trailFrom? table c path = some trail) :
    trail.length = path.length + 1 := by
  induction path generalizing c trail with
  | nil =>
    obtain rfl := Option.some.inj h
    rfl
  | cons position path ih =>
    obtain ⟨child, below, -, hbelow, rfl⟩ := trailFrom?_cons_eq_some_iff.mp h
    rw [List.length_cons, ih hbelow, List.length_cons]

/-- What holds of a component, and of every child of any component, holds all along a trail. -/
theorem forall_mem_trail {table : ComponentTable} {P : Component → Prop}
    (hchildren : ∀ ⦃c child⦄, child ∈ children table c → P child) {c : Component} (hc : P c)
    {path : List Nat} {trail : List Component} (h : trailFrom? table c path = some trail) :
    ∀ d ∈ trail, P d := by
  induction path generalizing c trail with
  | nil =>
    obtain rfl := Option.some.inj h
    simpa using hc
  | cons position path ih =>
    obtain ⟨child, below, hchild, hbelow, rfl⟩ := trailFrom?_cons_eq_some_iff.mp h
    have hrest := ih (hchildren (mem_children_of_childAt? hchild)) hbelow
    exact List.forall_mem_cons.mpr ⟨hc, hrest⟩

/-- A path without an id that occurs twice is shorter than the table. -/
theorem length_lt_of_nodup {table : ComponentTable} {root : String} {path : List Nat}
    {trail : List Component} (h : trail? table root path = some trail)
    (hnodup : (trail.map Component.id).Nodup) : path.length < table.length := by
  obtain ⟨c, hc, htrail⟩ := Option.bind_eq_some_iff.mp h
  have hsubset : trail.map Component.id ⊆ (Record.values table).map Component.id :=
    List.map_subset _ fun d hd => forall_mem_trail (P := (· ∈ Record.values table))
      (fun _ _ => mem_values_of_mem_children) (mem_values_of_get? hc) htrail d hd
  have hle := hnodup.length_le_of_subset hsubset
  rw [List.length_map, List.length_map, length_of_trailFrom? htrail, Record.values,
    List.length_map] at hle
  omega

/-- From each component of a trail there is a trail to its end. -/
theorem exists_suffix_of_mem_trail {table : ComponentTable} {c d : Component} {path : List Nat}
    {trail : List Component} (h : trailFrom? table c path = some trail) (hd : d ∈ trail) :
    ∃ path' trail', trailFrom? table d path' = some trail' ∧ trail' <:+ trail := by
  induction path generalizing c trail with
  | nil =>
    obtain rfl := Option.some.inj h
    obtain rfl := List.mem_singleton.mp hd
    exact ⟨[], [d], rfl, List.suffix_rfl⟩
  | cons position path ih =>
    obtain ⟨child, below, hchild, hbelow, rfl⟩ := trailFrom?_cons_eq_some_iff.mp h
    rcases List.mem_cons.mp hd with rfl | hd
    · exact ⟨position :: path, _, h, List.suffix_rfl⟩
    · obtain ⟨path', trail', htrail', hsuffix⟩ := ih hbelow hd
      exact ⟨path', trail', htrail', hsuffix.trans (List.suffix_cons c below)⟩

section

variable {table : ComponentTable} (hkeyed : ∀ e ∈ table, e.1 = e.2.id)

include hkeyed

theorem id_of_get? {id : String} {c : Component} (h : Record.get? table id = some c) : c.id = id :=
  (hkeyed _ (Record.mem_of_get?_eq_some h)).symm

/-- A child has the id that it is listed under. -/
theorem get?_of_mem_children {c child : Component} (h : child ∈ children table c) :
    child.id ∈ c.childIds ∧ Record.get? table child.id = some child := by
  obtain ⟨id, hid, hget⟩ := List.mem_filterMap.mp h
  obtain rfl := id_of_get? hkeyed hget
  exact ⟨hid, hget⟩

/-- A trail leads through references. -/
theorem reflTransGen_of_trail {c d : Component} {path : List Nat} {trail : List Component}
    (hc : Record.get? table c.id = some c) (h : trailFrom? table c path = some trail)
    (hd : trail.getLast? = some d) : Relation.ReflTransGen table.Refers c.id d.id := by
  induction path generalizing c trail with
  | nil =>
    obtain rfl := Option.some.inj h
    obtain rfl := Option.some.inj hd
    exact Relation.ReflTransGen.refl
  | cons position path ih =>
    obtain ⟨child, below, hchild, hbelow, rfl⟩ := trailFrom?_cons_eq_some_iff.mp h
    obtain ⟨rest, rfl⟩ := exists_eq_cons_of_trailFrom? hbelow
    obtain ⟨hlisted, hget⟩ := get?_of_mem_children hkeyed (mem_children_of_childAt? hchild)
    rw [List.getLast?_cons_cons] at hd
    exact Relation.ReflTransGen.head ⟨c, child, hc, hlisted, hget⟩ (ih hget hbelow hd)

/-- Whatever is reached is reached by a simple path: where a way comes back to an id, the part before
is left out. -/
theorem exists_simple_trail {root id : String} (h : table.Reaches root id) :
    ∃ path trail d, trail? table root path = some trail ∧ (trail.map Component.id).Nodup ∧
      trail.getLast? = some d ∧ d.id = id := by
  obtain ⟨hroot, hreach⟩ := h
  induction hreach using Relation.ReflTransGen.head_induction_on with
  | refl =>
    obtain ⟨c, hc⟩ := Option.isSome_iff_exists.mp hroot
    exact ⟨[], [c], c, by simp [trail?, hc, trailFrom?], by simp, rfl, id_of_get? hkeyed hc⟩
  | head hrefers _ ih =>
    rename_i parent next _
    obtain ⟨c, child, hc, hlisted, hchild⟩ := hrefers
    obtain ⟨path, trail, d, htrail, hnodup, hlast, hid⟩ := ih (by simp [Record.has, hchild])
    rw [trail?, hchild, Option.bind_some] at htrail
    obtain rfl := id_of_get? hkeyed hchild
    obtain rfl := id_of_get? hkeyed hc
    by_cases hback : ∃ e ∈ trail, e.id = c.id
    · -- the way from the child comes back to the component: the part from there on is enough
      obtain ⟨e, he, heq⟩ := hback
      have hget := forall_mem_trail (P := fun d => Record.get? table d.id = some d)
        (fun _ _ hmem => (get?_of_mem_children hkeyed hmem).2) hchild htrail e he
      obtain rfl : e = c := Option.some.inj (hget.symm.trans (heq ▸ hc))
      obtain ⟨path', trail', htrail', hsuffix⟩ := exists_suffix_of_mem_trail htrail he
      obtain ⟨below, rfl⟩ := exists_eq_cons_of_trailFrom? htrail'
      refine ⟨path', e :: below, d, by simp [trail?, hc, htrail'], ?_, ?_, hid⟩
      · exact hnodup.sublist (hsuffix.sublist.map Component.id)
      · obtain ⟨before, rfl⟩ := hsuffix
        simpa [List.getLast?_append] using hlast
    · obtain ⟨position, hposition⟩ := List.getElem?_of_mem hlisted
      obtain ⟨below, rfl⟩ := exists_eq_cons_of_trailFrom? htrail
      refine ⟨position :: path, c :: child :: below, d, ?_, ?_, ?_, hid⟩
      · rw [trail?, hc, Option.bind_some]
        refine trailFrom?_cons_eq_some_iff.mpr ⟨child, _, ?_, htrail, rfl⟩
        rw [childAt?, hposition, Option.bind_some, hchild]
      · refine List.nodup_cons.mpr ⟨fun hmem => hback ?_, hnodup⟩
        exact List.mem_map.mp hmem
      · rwa [List.getLast?_cons_cons]

end

/-! ## The walk -/

/-- An entry of a walk is that of a path from the root: the component at its end, at a depth of as many
steps as the path has. -/
def EndsIn (table : ComponentTable) (root : String) (path : List Nat) (v : Component × Nat) : Prop :=
  ∃ trail, trail? table root path = some trail ∧ trail.getLast? = some v.1 ∧ v.2 = path.length

/-- Of related lists, each item has a partner. -/
theorem exists_partner {α β : Type} {R : α → β → Prop} {as : List α} {bs : List β}
    (h : List.Forall₂ R as bs) : ∀ b ∈ bs, ∃ a ∈ as, R a b := by
  induction h with
  | nil => simp
  | cons hab _ ih =>
    refine List.forall_mem_cons.mpr ⟨⟨_, List.mem_cons_self, hab⟩, fun b hb => ?_⟩
    obtain ⟨a, ha, hab⟩ := ih b hb
    exact ⟨a, List.mem_cons_of_mem _ ha, hab⟩

/-- The simple paths from a root, in order, and the walk that follows them. -/
theorem exists_simple_paths (table : ComponentTable) (root : String) :
    ∃ paths : List (List Nat), paths.Pairwise (· < ·) ∧
      (∀ path, path ∈ paths ↔ table.IsSimplePath root path) ∧
      List.Forall₂ (table.EndsIn root) paths (table.walk root) := by
  rw [walk_eq_visit]
  unfold IsSimplePath EndsIn trail?
  cases Record.get? table root with
  | none =>
    refine ⟨[], List.Pairwise.nil, ?_, List.Forall₂.nil⟩
    simp
  | some c =>
    refine ⟨pathsFrom table [c.id] c, pairwise_pathsFrom table [c.id] c, fun path => ?_, ?_⟩
    · -- the trail begins with the root, which is on the branch from the start
      rw [mem_pathsFrom_iff (List.nodup_singleton c.id)]
      constructor
      · rintro ⟨trail, htrail, hids⟩
        obtain ⟨below, rfl⟩ := exists_eq_cons_of_trailFrom? htrail
        refine ⟨_, htrail, ?_⟩
        rw [← List.nodup_reverse]
        simpa using hids
      · rintro ⟨trail, htrail, hids⟩
        obtain ⟨below, rfl⟩ := exists_eq_cons_of_trailFrom? htrail
        refine ⟨_, htrail, ?_⟩
        rw [← List.nodup_reverse] at hids
        simpa using hids
    · refine (visit_follows_paths table [c.id] c 0).imp ?_
      rintro path v ⟨trail, htrail, hlast, hdepth⟩
      exact ⟨trail, htrail, hlast, by rw [hdepth, Nat.zero_add]⟩

/-- The walk through a table, in which every component stands under its own id (`keyed_upsertAll`,
`keyed_erase`), ends by itself.  It has one entry for each simple path from the root, the paths in order: the
component at the end of the path, at a depth of as many steps as the path has.  So it is nowhere as deep as
the table has components, and the ids that it visits are those that are reached from the root. -/
theorem walk_visits_simple_paths (table : ComponentTable) (hkeyed : ∀ e ∈ table, e.1 = e.2.id)
    (root : String) :
    (table.walk root =
      match Record.get? table root with
      | some c => table.visit [c.id] c 0
      | none => []) ∧
    (∃ paths : List (List Nat), paths.Pairwise (· < ·) ∧
      (∀ path, path ∈ paths ↔ table.IsSimplePath root path) ∧
      List.Forall₂ (table.EndsIn root) paths (table.walk root)) ∧
    (∀ v ∈ table.walk root, v.2 < table.length) ∧
    (∀ id, id ∈ (table.walk root).map (fun v => v.1.id) ↔ table.Reaches root id) := by
  obtain ⟨paths, horder, hsimple, hwalk⟩ := exists_simple_paths table root
  refine ⟨walk_eq_visit table root, ⟨paths, horder, hsimple, hwalk⟩, ?_, ?_⟩
  · intro v hv
    obtain ⟨path, hpath, _, _, _, hdepth⟩ := exists_partner hwalk v hv
    obtain ⟨trail, htrail, hnodup⟩ := (hsimple path).mp hpath
    exact hdepth ▸ length_lt_of_nodup htrail hnodup
  · intro id
    constructor
    · intro hid
      obtain ⟨v, hv, rfl⟩ := List.mem_map.mp hid
      obtain ⟨path, -, trail, htrail, hlast, -⟩ := exists_partner hwalk v hv
      obtain ⟨c, hc, hfrom⟩ := Option.bind_eq_some_iff.mp htrail
      obtain rfl := id_of_get? hkeyed hc
      exact ⟨by simp [Record.has, hc], reflTransGen_of_trail hkeyed hc hfrom hlast⟩
    · intro hreach
      -- what can be reached can be reached without coming to a component twice
      obtain ⟨path, trail, d, htrail, hnodup, hlast, rfl⟩ := exists_simple_trail hkeyed hreach
      have hpath := (hsimple path).mpr ⟨trail, htrail, hnodup⟩
      obtain ⟨v, hv, trail', htrail', hlast', -⟩ := exists_partner hwalk.flip path hpath
      obtain rfl : trail = trail' := Option.some.inj (htrail.symm.trans htrail')
      obtain rfl : d = v.1 := Option.some.inj (hlast.symm.trans hlast')
      exact List.mem_map_of_mem hv

/-- A root that lists a child twice, another after it, one that was taken out and itself, where the
children list each other, themselves and the root. -/
theorem walk_through_a_tangle :
    let component (id : String) (ids : List String) : Component :=
      ⟨id, "Box", some ⟨some ids, none⟩, none, none, none, none, none, []⟩
    let table : ComponentTable := Record.erase (ComponentTable.ofList [component "ghost" [],
      component "root" ["a", "a", "b", "ghost", "root"], component "a" ["b", "a"],
      component "b" ["root", "a"], component "apart" ["root"]]) "ghost"
    (∀ e ∈ table, e.1 = e.2.id) ∧
    (table.walk "root").map (fun v => (v.1.id, v.2)) =
      [("root", 0), ("a", 1), ("b", 2), ("a", 1), ("b", 2), ("b", 1), ("a", 2)] ∧
    (∃ paths : List (List Nat), paths.Pairwise (· < ·) ∧
      (∀ path, path ∈ paths ↔ table.IsSimplePath "root" path) ∧ paths.length = 7) ∧
    table.Reaches "root" "b" ∧ ¬ table.Reaches "root" "ghost" ∧ ¬ table.Reaches "root" "apart" := by
  intro component table
  have hkeyed : ∀ e ∈ table, e.1 = e.2.id := keyed_erase (keyed_upsertAll (by simp) _) "ghost"
  have hids : (table.walk "root").map (fun v => (v.1.id, v.2)) =
      [("root", 0), ("a", 1), ("b", 2), ("a", 1), ("b", 2), ("b", 1), ("a", 2)] := by decide +kernel
  obtain ⟨-, ⟨paths, horder, hsimple, hwalk⟩, -, hreach⟩ :=
    walk_visits_simple_paths table hkeyed "root"
  have hmem : ∀ id, id ∈ ["root", "a", "b", "a", "b", "b", "a"] ↔ table.Reaches "root" id := by
    intro id
    have hvisited : (table.walk "root").map (fun v => v.1.id) = ["root", "a", "b", "a", "b", "b", "a"] := by
      simpa [Function.comp_def] using congrArg (List.map Prod.fst) hids
    rw [← hreach, hvisited]
  refine ⟨hkeyed, hids, ⟨paths, horder, hsimple, ?_⟩, ?_, ?_, ?_⟩
  · have hlength := congrArg List.length hids
    rw [List.length_map] at hlength
    rw [hwalk.length_eq, hlength]
    rfl
  · exact (hmem "b").mp (by decide)
  · exact fun h => absurd ((hmem "ghost").mpr h) (by decide)
  · exact fun h => absurd ((hmem "apart").mpr h) (by decide)

end UiSurface.ComponentTable
