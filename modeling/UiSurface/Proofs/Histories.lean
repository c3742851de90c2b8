import Mathlib.Data.List.DropRight
import Mathlib.Data.List.Induction
import UiSurface.Proofs.Bindings
import UiSurface.Proofs.Walks

/-!
# Histories — what a table holds, told by what was done to it

Whatever is done to a table comes down to changes: one component is defined, or one id is removed.  What is
found under an id is its last definition since it was last removed.

An id that is defined anew keeps its place, and one that is removed and comes back goes to the end.  So the
ids stand in the order in which they came to stay: of two ids, the stay of the first one began earlier.  The
stay of an id grows with every change, be it about that id or about others, until the id is removed.

Main lemmas: `get?_foldl_change` (what is found under an id), `stay_concat` (how a stay goes on),
`pairwise_keys` (the ids by the length of their stays), `interleaved_children` (children and dangling ids),
`last_definition_wins_in_order`.
-/

namespace UiSurface

/-- Two lists dealt into each other: each keeps its order, and nothing else comes in. -/
inductive Interleaved {α : Type} : List α → List α → List α → Prop
  | nil : Interleaved [] [] []
  | left {a : α} {as bs cs : List α} : Interleaved as bs cs → Interleaved (a :: as) bs (a :: cs)
  | right {b : α} {as bs cs : List α} : Interleaved as bs cs → Interleaved as (b :: bs) (b :: cs)

/-- A list is dealt out into what satisfies `p` and what does not. -/
theorem interleaved_filter {α : Type} (p : α → Bool) (as : List α) :
    Interleaved (as.filter p) (as.filter fun a => !p a) as := by
  induction as with
  | nil => exact .nil
  | cons a as ih =>
    cases ha : p a with
    | true => simpa [ha] using ih.left
    | false => simpa [ha] using ih.right

namespace ComponentTable

/-! ## Changes -/

/-- What can be done to a table. -/
inductive Operation where
  | upsert (c : Component)
  | upsertAll (cs : List Component)
  | remove (id : String)

def perform (table : ComponentTable) : Operation → ComponentTable
  | .upsert c => table.upsert c
  | .upsertAll cs => table.upsertAll cs
  | .remove id => (table.remove id).1

/-- One change of a table: a component is defined, or an id is removed. -/
inductive Change where
  | define (c : Component)
  | remove (id : String)
deriving DecidableEq

/-- The changes that an operation makes, in order. -/
def Operation.changes : Operation → List Change
  | .upsert c => [.define c]
  | .upsertAll cs => cs.map .define
  | .remove id => [.remove id]

def change (table : ComponentTable) : Change → ComponentTable
  | .define c => table.upsert c
  | .remove id => (table.remove id).1

/-- What is done to a table comes down to its changes. -/
theorem perform_eq_foldl (table : ComponentTable) (op : Operation) :
    table.perform op = op.changes.foldl change table := by
  cases op with
  | upsert c => rfl
  | upsertAll cs =>
    rw [Operation.changes, List.foldl_map]
    rfl
  | remove id => rfl

/-- Operations make their changes, one after the other. -/
theorem foldl_perform (table : ComponentTable) (ops : List Operation) :
    ops.foldl perform table = (ops.flatMap Operation.changes).foldl change table := by
  rw [List.foldl_flatMap]
  congr
  funext table op
  exact perform_eq_foldl table op

/-! ## What is found -/

/-- The component that a change defines under an id. -/
def Change.definition? (id : String) : Change → Option Component
  | .define c => if c.id = id then some c else none
  | .remove _ => none

/-- The changes since an id was last removed. -/
def since (id : String) (history : List Change) : List Change :=
  history.rtakeWhile (· != .remove id)

/-- The definitions of an id since it was last removed. -/
def definitions (id : String) (history : List Change) : List Component :=
  (since id history).filterMap (Change.definition? id)

/-- A removal ends what was since the last one. -/
theorem since_concat (id : String) (history : List Change) (x : Change) :
    since id (history ++ [x]) = if x = .remove id then [] else since id history ++ [x] := by
  by_cases hx : x = .remove id <;> simp [since, hx]

/-- A change that defines an id is its last definition. -/
theorem definitions_concat (id : String) (history : List Change) (x : Change) :
    definitions id (history ++ [x]) =
      if x = .remove id then [] else definitions id history ++ (x.definition? id).toList := by
  rw [definitions, since_concat]
  split
  · rfl
  · rw [List.filterMap_append]
    cases hx : x.definition? id <;> simp [definitions, hx]

/-- What is found under an id is its last definition since it was last removed. -/
theorem get?_foldl_change (id : String) (history : List Change) :
    Record.get? (history.foldl change []) id = (definitions id history).getLast? := by
  induction history using List.reverseRecOn with
  | nil => rfl
  | append_singleton history x ih =>
    rw [List.foldl_concat, definitions_concat]
    cases x with
    | define c =>
      rw [change, get?_upsert, ih]
      by_cases hid : c.id = id <;> simp [Change.definition?, hid]
    | remove other =>
      rw [change, remove]
      -- removing an id takes its definitions away, and leaves those of others
      by_cases hother : other = id
      · subst hother
        simp
      · rw [Record.get?_erase_of_ne _ (Ne.symm hother), ih, if_neg (by simpa using hother)]
        simp [Change.definition?]

/-! ## Where it stands -/

/-- The changes since an id came to stay: since its first definition after it was last removed. -/
def stay (id : String) (history : List Change) : List Change :=
  (since id history).dropWhile fun x => (x.definition? id).isNone

/-- An id stays just if it is defined. -/
theorem stay_eq_nil_iff {id : String} {history : List Change} :
    stay id history = [] ↔ definitions id history = [] := by
  simp [stay, definitions]

/-- The ids of a table are those that stay. -/
theorem mem_keys_foldl_change {id : String} {history : List Change} :
    id ∈ Record.keys (history.foldl change []) ↔ stay id history ≠ [] := by
  rw [← not_iff_not, ← Record.get?_eq_none_iff, get?_foldl_change, List.getLast?_eq_none_iff, not_not,
    stay_eq_nil_iff]

/-- A stay goes on with every change until the id is removed, and begins with the first definition. -/
theorem stay_concat (id : String) (history : List Change) (x : Change) :
    stay id (history ++ [x]) =
      if x = .remove id then []
      else if stay id history = [] then (if (x.definition? id).isNone then [] else [x])
      else stay id history ++ [x] := by
  rw [stay, since_concat]
  split
  · rfl
  · rw [List.dropWhile_append]
    change (if (stay id history).isEmpty then _ else stay id history ++ [x]) = _
    cases stay id history with
    | nil => cases hx : x.definition? id <;> simp [hx]
    | cons y ys => rfl

/-- So a stay that has begun is one change longer behind every change that does not end it. -/
theorem length_stay_concat {id : String} {history : List Change} {x : Change} (h : stay id history ≠ [])
    (hx : x ≠ .remove id) : (stay id (history ++ [x])).length = (stay id history).length + 1 := by
  rw [stay_concat, if_neg hx, if_neg h, List.length_append, List.length_singleton]

/-- One id came to stay before another, and so has stayed longer. -/
def CameBefore (history : List Change) (a b : String) : Prop :=
  (stay b history).length < (stay a history).length

/-- Stays that nobody ends go on together. -/
theorem pairwise_concat {history : List Change} {ids : List String} {x : Change}
    (h : ids.Pairwise (CameBefore history)) (hstay : ∀ id ∈ ids, stay id history ≠ [])
    (hx : ∀ id ∈ ids, x ≠ .remove id) : ids.Pairwise (CameBefore (history ++ [x])) := by
  refine h.imp_of_mem fun ha hb hlt => ?_
  rw [CameBefore, length_stay_concat (hstay _ ha) (hx _ ha), length_stay_concat (hstay _ hb) (hx _ hb)]
  exact Nat.succ_lt_succ hlt

/-- The ids stand in the order in which they came to stay. -/
theorem pairwise_keys (history : List Change) :
    (Record.keys (history.foldl change [])).Pairwise (CameBefore history) := by
  induction history using List.reverseRecOn with
  | nil => exact .nil
  | append_singleton history x ih =>
    have hstay : ∀ id ∈ Record.keys (history.foldl change []), stay id history ≠ [] :=
      fun id => mem_keys_foldl_change.mp
    rw [List.foldl_concat]
    cases x with
    | define c =>
      have hdefine : ∀ id, Change.define c ≠ .remove id := fun id => nofun
      have hold := pairwise_concat ih hstay fun id _ => hdefine id
      by_cases hc : c.id ∈ Record.keys (history.foldl change [])
      · rw [change, upsert, Record.keys_put_of_mem _ c hc]
        exact hold
      · rw [change, upsert, Record.keys_put_of_not_mem _ c hc]
        -- the newcomer has the shortest stay
        have hnew : (stay c.id (history ++ [.define c])).length = 1 := by
          rw [mem_keys_foldl_change, not_not] at hc
          simp [stay_concat, hc, Change.definition?]
        refine List.pairwise_append.mpr ⟨hold, List.pairwise_singleton _ _, fun a ha b hb => ?_⟩
        obtain rfl := List.mem_singleton.mp hb
        rw [CameBefore, hnew, length_stay_concat (hstay a ha) (hdefine a)]
        exact Nat.lt_add_of_pos_left (List.length_pos_of_ne_nil (hstay a ha))
    | remove id =>
      have hkeys : Record.keys (Record.erase (history.foldl change []) id) =
          (Record.keys (history.foldl change [])).filter (· != id) := by
        rw [Record.keys, Record.erase, Record.keys, List.filter_map]
        rfl
      rw [change, remove, hkeys]
      refine pairwise_concat (ih.sublist List.filter_sublist) (fun other hother =>
        hstay other (List.filter_sublist.subset hother)) fun other hother heq => ?_
      obtain rfl := Change.remove.inj heq
      simpa using (List.mem_filter.mp hother).2

/-! ## Names -/

/-- What stands under an id has it. -/
theorem keyed_foldl_change (history : List Change) : ∀ e ∈ history.foldl change [], e.1 = e.2.id := by
  induction history using List.reverseRecOn with
  | nil => exact nofun
  | append_singleton history x ih =>
    rw [List.foldl_concat]
    cases x with
    | define c =>
      intro e he
      rcases Record.mem_put he with rfl | hold
      · rfl
      · exact ih e hold
    | remove id => exact keyed_erase ih id

/-! ## Children -/

/-- The dangling ids of a component, as a table lists them. -/
def danglingOf (table : ComponentTable) (c : Component) : List String :=
  (table.dangling.filter fun e => e.1 == c.id).map Prod.snd

section

variable {table : ComponentTable} {c : Component}

/-- The children that are found are those that a component lists and the table has. -/
theorem map_id_children (hkeyed : ∀ e ∈ table, e.1 = e.2.id) (c : Component) :
    (children table c).map Component.id = c.childIds.filter (Record.has table) := by
  rw [children, List.map_filterMap, ← List.filterMap_eq_filter]
  refine List.filterMap_congr fun id _ => ?_
  cases hget : Record.get? table id with
  | none => simp [Record.has, Option.guard, hget]
  | some child => simp [Record.has, Option.guard, hget, id_of_get? hkeyed hget]

/-- A table lists what a component misses under that component, and nothing else. -/
theorem danglingOf_eq (hkeyed : ∀ e ∈ table, e.1 = e.2.id) (hnodup : (Record.keys table).Nodup)
    (hc : c ∈ Record.values table) : danglingOf table c = missingChildren table c := by
  have hids : ((Record.values table).map Component.id).Nodup := by
    rw [Record.values, List.map_map]
    exact (List.map_congr_left hkeyed) ▸ hnodup
  have hother : ∀ d : Component, d.id ≠ c.id →
      (((missingChildren table d).map fun id => (d.id, id)).filter fun e => e.1 == c.id) = [] := by
    intro d hd
    simp [List.filter_map, Function.comp_def, hd]
  rw [danglingOf, dangling, List.filter_flatMap, Surface.flatMap_eq_of_nodup hids hc hother]
  simp [List.filter_map, Function.comp_def]

/-- The children of a component and its dangling ids are dealt into each other to the ids that it lists. -/
theorem interleaved_children (hkeyed : ∀ e ∈ table, e.1 = e.2.id) (hnodup : (Record.keys table).Nodup)
    (hc : c ∈ Record.values table) :
    Interleaved ((children table c).map Component.id) (danglingOf table c) c.childIds := by
  rw [map_id_children hkeyed, danglingOf_eq hkeyed hnodup hc]
  exact interleaved_filter (Record.has table) c.childIds

end

/-! ## Every history -/

/-- A table maps ids to components in order, and the last definition of an id wins.  Whatever is done to an
empty table: each component stands under its own id, and no id occurs twice.  Under an id is found its last
definition since it was last removed, if there is any; and the ids stand in the order in which they came to
stay, each with its first definition since then.  So the ids that a component lists are those of its children,
which are found under them, and its dangling ids, which are none of the table, dealt into each other. -/
theorem last_definition_wins_in_order (ops : List Operation) :
    let table : ComponentTable := ops.foldl perform []
    let history := ops.flatMap Operation.changes
    (∀ e ∈ table, e.1 = e.2.id) ∧ (Record.keys table).Nodup ∧
    (∀ id, Record.get? table id = (definitions id history).getLast?) ∧
    (∀ id, id ∈ Record.keys table ↔ stay id history ≠ []) ∧
    (Record.keys table).Pairwise (CameBefore history) ∧
    ∀ c ∈ Record.values table,
      Interleaved ((children table c).map Component.id) (danglingOf table c) c.childIds ∧
      (∀ child ∈ children table c, Record.get? table child.id = some child) ∧
      ∀ id ∈ danglingOf table c, id ∉ Record.keys table := by
  intro table history
  have htable : table = history.foldl change [] := foldl_perform [] ops
  have hkeyed : ∀ e ∈ table, e.1 = e.2.id := htable ▸ keyed_foldl_change history
  have horder : (Record.keys table).Pairwise (CameBefore history) := htable ▸ pairwise_keys history
  have hnodup : (Record.keys table).Nodup := horder.imp fun hbefore heq => (heq ▸ hbefore).false
  refine ⟨hkeyed, hnodup, ?_, ?_, horder, fun c hc => ⟨interleaved_children hkeyed hnodup hc, ?_, ?_⟩⟩
  · rw [htable]
    exact fun id => get?_foldl_change id history
  · rw [htable]
    exact fun id => mem_keys_foldl_change
  · exact fun child hchild => (get?_of_mem_children hkeyed hchild).2
  · intro id hid
    rw [danglingOf_eq hkeyed hnodup hc, missingChildren, List.mem_filter] at hid
    rw [← Record.has_iff_mem_keys]
    simpa using hid.2

/-- A component that is defined anew keeps its place, and one that comes back goes to the end. -/
example :
    let text (id type : String) : Component := ⟨id, type, none, none, none, none, none, none, []⟩
    let ops : List Operation := [.upsertAll [text "a" "Text", text "b" "Text", text "c" "Text"],
      .upsert (text "b" "Image"), .remove "a", .remove "d", .upsert (text "a" "Row")]
    ((ops.foldl perform []).map fun e => (e.1, e.2.type)) =
      [("b", "Image"), ("c", "Text"), ("a", "Row")] := by decide +kernel

end ComponentTable

end UiSurface
