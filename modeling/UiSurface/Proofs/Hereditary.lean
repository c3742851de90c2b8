import UiSurface.DataModel.Overlay
import UiSurface.Proofs.Records

/-!
# Properties that trees hand down

A property of values is hereditary if an object hands it down to its members, and keeps it when a member
that has it is written.  All changes of a data model write members, so they keep every such property.

Main lemmas: `Hereditary.follow?` (what is found along a path), `Hereditary.set` (a write),
`Hereditary.merge` and `Hereditary.overlay` (an overlay).
-/

namespace UiSurface.Json

/-- A property that an object hands down to its members, and keeps when a member that has it is
written. -/
structure Hereditary (P : Json → Prop) : Prop where
  empty : P (.obj [])
  put : ∀ {members : Record Json} {key : String} {value : Json}, P (.obj members) → P value →
    P (.obj (Record.put members key value))
  member : ∀ {members : Record Json} {e : String × Json}, P (.obj members) → e ∈ members → P e.2

namespace Hereditary

variable {P : Json → Prop} (hP : Hereditary P)

include hP

/-- What stands in an object has the property. -/
theorem get? {members : Record Json} (h : P (.obj members)) {key : String} {value : Json}
    (hget : Record.get? members key = some value) : P value :=
  hP.member h (Record.mem_of_get?_eq_some hget)

/-- What is found along a path is a member of a member. -/
theorem follow? {v w : Json} (hv : P v) {keys : List String} (h : DataModel.follow? v keys = some w) :
    P w := by
  induction keys generalizing v with
  | nil =>
    obtain rfl := Option.some.inj h
    exact hv
  | cons key keys ih =>
    cases v with
    | obj members =>
      rw [DataModel.follow?] at h
      split at h
      · rename_i child hget
        exact ih (hP.get? hv hget) h
      · cases h
    | null | bool | num | str | arr => cases h

/-- So has the object under a key, which is empty where there is none. -/
theorem childObject {model : DataModel} (h : P (.obj model)) (key : String) :
    P (.obj (DataModel.childObject model key)) := by
  unfold DataModel.childObject
  split
  · rename_i members hget
    exact hP.get? h hget
  · exact hP.empty

/-- A value that has the property may be written anywhere. -/
theorem set {model : DataModel} (hmodel : P (.obj model)) (keys : List String) {value : Json}
    (hvalue : P value) : P (.obj (model.set keys value)) := by
  induction keys generalizing model with
  | nil =>
    rw [DataModel.set_nil]
    exact hmodel
  | cons key keys ih =>
    cases keys with
    | nil => exact hP.put hmodel hvalue
    | cons next rest => exact hP.put hmodel (ih (hP.childObject hmodel key))

mutual

/-- An overlay keeps the property, by the cases of what it is laid over. -/
theorem mergeValue {x : Option Json} (hx : ∀ value, x = some value → P value) :
    ∀ value : Json, P value → P (DataModel.mergeValue x value)
  | .obj members, hvalue => by
    unfold DataModel.mergeValue
    split
    · exact merge (hx _ rfl) members fun _ he => hP.member hvalue he
    · exact hvalue
  | .null, hvalue | .bool _, hvalue | .num _, hvalue | .str _, hvalue | .arr _, hvalue => by
    simpa only [DataModel.mergeValue] using hvalue

theorem merge {base : DataModel} (hbase : P (.obj base)) :
    ∀ members : List (String × Json), (∀ e ∈ members, P e.2) → P (.obj (base.merge members))
  | [], _ => by
    rw [DataModel.merge_nil]
    exact hbase
  | (key, value) :: rest, hmembers => by
    have hvalue := mergeValue (x := Record.get? base key)
      (fun _ hget => hP.get? hbase hget) value (hmembers _ List.mem_cons_self)
    rw [DataModel.merge]
    exact merge (hP.put hbase hvalue) rest fun e he => hmembers e (List.mem_cons_of_mem _ he)

end

/-- What all values of a flat overlay have, the tree has that it stands for. -/
theorem expandFlat {entries : Record Json} (h : ∀ e ∈ entries, P e.2) :
    P (.obj (DataModel.expandFlat entries)) := by
  have hbranch : ∀ e ∈ entries, P (.obj (DataModel.branch e.1 e.2)) := by
    intro e he
    unfold DataModel.branch
    split
    · exact hP.set hP.empty _ (h e he)
    · exact hP.put hP.empty (h e he)
  -- by the entries that are left, over any tree that has the property
  have hfold : ∀ (es : Record Json) (tree : DataModel), (∀ e ∈ es, e ∈ entries) → P (.obj tree) →
      P (.obj (es.foldl (fun tree e => DataModel.merge tree (DataModel.branch e.1 e.2)) tree)) := by
    intro es
    induction es with
    | nil => exact fun tree _ htree => htree
    | cons e es ih =>
      intro tree hes htree
      refine ih _ (fun e' he' => hes e' (List.mem_cons_of_mem _ he')) ?_
      exact hP.merge htree _ fun _ he' => hP.member (hbranch e (hes e List.mem_cons_self)) he'
  exact hfold entries [] (fun _ he => he) hP.empty

/-- An overlay keeps the property, flat or nested. -/
theorem overlay {base : DataModel} (hbase : P (.obj base)) {entries : Record Json}
    (h : P (.obj entries)) : P (.obj (base.overlay entries)) :=
  hP.merge hbase _ fun _ he => hP.member (hP.expandFlat fun _ he' => hP.member h he') he

end Hereditary

end UiSurface.Json
