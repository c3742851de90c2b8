import UiSurface.Proofs.WellFormed

/-!
# Changes of a data model that can be repeated

A later change overwrites an earlier one, so changes made once more start from another tree, and a
path may turn into objects what a later change had made a leaf.  That a whole run of changes can be
repeated is therefore not seen from its members one by one.  Looked at under one name at a time it is:
either the run fixes what stands there, whatever was there before, or all of it goes further in.

Main lemmas: `Steady.comp` and `Steady.idem` (changes of what stands under a name), and for changes of
a data model `Replayable.comp`, `Replayable.idem`, `replayable_set` (a path), `replayable_merge` and
`replayable_overlay` (an overlay).
-/

namespace UiSurface.DataModel

open Json (wellFormed_obj_iff)

/-- The object that a change finds under a name; anything else counts as an empty one. -/
def objectUnder : Option Json → DataModel
  | some (.obj members) => members
  | _ => []

@[simp] theorem objectUnder_obj (model : DataModel) : objectUnder (some (.obj model)) = model := rfl

/-- The object under a key is what a change finds there. -/
theorem childObject_eq (model : DataModel) (key : String) :
    childObject model key = objectUnder (Record.get? model key) := rfl

/-! ## Under one name -/

/-- Changes of what stands under a name: none, a value whatever was there, or edits of the object
there, which are of this kind under each name. -/
inductive Steady : (Option Json → Option Json) → Prop
  | keep : Steady fun x => x
  | leaf (value : Json) : Steady fun _ => some value
  | inside (edits : List (String × (Option Json → Json)))
      (h : ∀ key, Steady (Record.editAt edits key)) :
      Steady fun x => some (.obj (Record.edit (objectUnder x) edits))

/-- One change after another is a change again. -/
theorem Steady.comp {f g : Option Json → Option Json} (hf : Steady f) (hg : Steady g) :
    Steady fun x => g (f x) := by
  induction hg generalizing f with
  | keep => exact hf
  | leaf value => exact leaf value
  | inside edits h ih =>
    cases hf with
    | keep => exact inside edits h
    -- the object there is known, so its edits make a known object
    | leaf value => exact leaf _
    | inside first hfirst =>
      have hboth : ∀ key, Steady (Record.editAt (first ++ edits) key) := by
        intro key
        have hkey := ih key (hfirst key)
        simp only [← Record.editAt_append] at hkey
        exact hkey
      have hrun := inside (first ++ edits) hboth
      simp only [Record.edit_append] at hrun
      exact hrun

/-- A change that is made once more changes nothing. -/
theorem Steady.idem {f : Option Json → Option Json} (hf : Steady f) (x : Option Json) :
    f (f x) = f x := by
  induction hf generalizing x with
  | keep => rfl
  | leaf value => rfl
  | inside edits h ih =>
    have hrepeat := Record.edit_edit (fun key x => ih key x) (objectUnder x)
    simp only [objectUnder_obj, hrepeat]

/-! ## A whole model -/

/-- A change of a data model that is steady as a change of the object under a name. -/
def Replayable (f : DataModel → DataModel) : Prop :=
  Steady fun x => some (.obj (f (objectUnder x)))

theorem Replayable.comp {f g : DataModel → DataModel} (hf : Replayable f) (hg : Replayable g) :
    Replayable fun model => g (f model) := Steady.comp hf hg

/-- A change that is made once more changes nothing. -/
theorem Replayable.idem {f : DataModel → DataModel} (hf : Replayable f) (model : DataModel) :
    f (f model) = f model := by
  have hobject := Steady.idem hf (some (.obj model))
  simpa using hobject

theorem replayable_const (model : DataModel) : Replayable fun _ => model := Steady.leaf (.obj model)

theorem replayable_edit {edits : List (String × (Option Json → Json))}
    (h : ∀ key, Steady (Record.editAt edits key)) :
    Replayable fun model => Record.edit model edits := Steady.inside edits h

theorem replayable_id : Replayable fun model => model :=
  Steady.inside [] fun _ => Steady.keep

/-- One edit does under its own name what it does, and nothing under others. -/
theorem steady_editAt_singleton (key : String) {f : Option Json → Json}
    (hf : Steady fun x => some (f x)) (other : String) :
    Steady (Record.editAt [(key, f)] other) := by
  by_cases hkey : key = other
  · have hself : Record.editAt [(key, f)] other = fun x => some (f x) := by
      funext x
      simp [Record.editAt, hkey]
    rw [hself]
    exact hf
  · have hkeep : Record.editAt [(key, f)] other = fun x => x := by
      funext x
      simp [Record.editAt, hkey]
    rw [hkeep]
    exact Steady.keep

/-! ## Paths -/

/-- A write that goes on behind its first key is an edit of the object under that key. -/
theorem set_cons_eq_edit (model : DataModel) (key next : String) (rest : List String) (value : Json) :
    set model (key :: next :: rest) value =
      Record.edit model [(key, fun x => .obj (set (objectUnder x) (next :: rest) value))] := by
  simp [set, childObject_eq, Record.edit]

/-- To write at a path can be repeated. -/
theorem replayable_set (keys : List String) (value : Json) :
    Replayable fun model => set model keys value := by
  induction keys with
  | nil =>
    simp only [set_nil]
    exact replayable_id
  | cons key keys ih =>
    cases keys with
    | nil =>
      have hwrite := steady_editAt_singleton key (Steady.leaf value)
      exact replayable_edit hwrite
    | cons next rest =>
      have hwrite := steady_editAt_singleton key ih
      simp only [set_cons_eq_edit]
      exact replayable_edit hwrite

/-! ## Overlays -/

/-- The edits that an overlay makes. -/
def mergeEdits (members : List (String × Json)) : List (String × (Option Json → Json)) :=
  members.map fun e => (e.1, fun x => mergeValue x e.2)

/-- To lay an overlay is to make its edits. -/
theorem merge_eq_edit (base : DataModel) (members : List (String × Json)) :
    merge base members = Record.edit base (mergeEdits members) := by
  induction members generalizing base with
  | nil => rw [merge_nil]; rfl
  | cons e members ih =>
    obtain ⟨key, value⟩ := e
    rw [merge, ih]
    rfl

theorem mergeValue_none (value : Json) : mergeValue none value = value := by
  cases value <;> simp [mergeValue]

/-- Members with new names, none twice, come in as they are. -/
theorem merge_of_nodup {base members : List (String × Json)}
    (h : (Record.keys (base ++ members)).Nodup) : merge base members = base ++ members := by
  induction members generalizing base with
  | nil => simp
  | cons e members ih =>
    obtain ⟨key, value⟩ := e
    have hkey : key ∉ Record.keys base := Record.not_mem_keys_of_nodup h
    have hput : Record.put base key (mergeValue (Record.get? base key) value) =
        base ++ [(key, value)] := by
      rw [(Record.get?_eq_none_iff base key).mpr hkey, mergeValue_none,
        Record.put_of_not_mem value hkey]
    rw [merge, hput, ih (by simpa using h), List.append_assoc, List.singleton_append]

theorem objectUnder_of_ne {x : Option Json} (h : ∀ base, x = some (.obj base) → False) :
    objectUnder x = [] := by
  unfold objectUnder
  split
  · exact absurd rfl (h _)
  · rfl

/-- What is laid over no object might as well be laid over an empty one. -/
theorem mergeValue_obj {members : List (String × Json)} (h : (Record.keys members).Nodup)
    (x : Option Json) : mergeValue x (.obj members) = .obj (merge (objectUnder x) members) := by
  unfold mergeValue
  split
  · rfl
  · rename_i hne
    have hmerge : merge [] members = members := merge_of_nodup h
    rw [objectUnder_of_ne hne, hmerge]

mutual

/-- To lay a value over another one twice is to lay it once. -/
theorem steady_mergeValue :
    ∀ value : Json, value.WellFormed → Steady fun x => some (mergeValue x value)
  | .obj members, h => by
    obtain ⟨hnodup, hmembers⟩ := wellFormed_obj_iff.mp h
    simp only [mergeValue_obj hnodup, merge_eq_edit]
    exact Steady.inside _ (steady_mergeEdits members hmembers)
  | .null, _ | .bool _, _ | .num _, _ | .str _, _ | .arr _, _ => by
    simp only [mergeValue]
    exact Steady.leaf _

theorem steady_mergeEdits :
    ∀ members : List (String × Json), (∀ e ∈ members, e.2.WellFormed) →
      ∀ key, Steady (Record.editAt (mergeEdits members) key)
  | [], _, _ => Steady.keep
  | (name, value) :: rest, hmembers, key => by
    have hfirst := steady_editAt_singleton name
      (steady_mergeValue value (hmembers _ List.mem_cons_self)) key
    have hrest := steady_mergeEdits rest (fun e he => hmembers e (List.mem_cons_of_mem _ he)) key
    have hboth := hfirst.comp hrest
    simp only [← Record.editAt_append] at hboth
    exact hboth

end

/-- To merge a well-formed object can be repeated. -/
theorem replayable_merge {members : List (String × Json)}
    (h : ∀ e ∈ members, e.2.WellFormed) : Replayable fun base => merge base members := by
  simp only [merge_eq_edit]
  exact replayable_edit (steady_mergeEdits members h)

/-- To lay a well-formed overlay over a model can be repeated, flat or nested. -/
theorem replayable_overlay {entries : Record Json} (h : (Json.obj entries).WellFormed) :
    Replayable fun base => overlay base entries := by
  have hentries := (wellFormed_obj_iff.mp h).2
  have htree := (wellFormed_obj_iff.mp (wellFormed_expandFlat hentries)).2
  exact replayable_merge htree

end UiSurface.DataModel
