import UiSurface.Proofs.Branches

/-!
# Equality up to the order of members

Two values are equal up to the order of members if they differ in nothing else, in every object that is
reached through objects.  Well-formed values are so exactly if they look the same along every path, where
of an object only that it is one is looked at.  So changes of a data model are compared by what they
leave to be found.

Main lemmas: `objectInduction` (a value taken apart through its objects), `sameUpToOrder_iff`,
`SameUpToOrder.merge` (an overlay whose members stand in another order).
-/

namespace UiSurface.Json

open DataModel (follow? get? get?_cons)

/-! ## Values taken apart -/

mutual

/-- What holds of all that is no object, and of an object if it holds of the values of its members, holds
of every value. -/
theorem objectInduction {P : Json → Prop} (leaf : ∀ v, v.isObject = false → P v)
    (obj : ∀ members : List (String × Json), (∀ e ∈ members, P e.2) → P (.obj members)) :
    ∀ v : Json, P v
  | .obj members => obj members (forall_mem_of_objectInduction leaf obj members)
  | .null | .bool _ | .num _ | .str _ | .arr _ => leaf _ rfl

/-- The items of a tree have a property by the recursion over objects. -/
theorem forall_mem_of_objectInduction {P : Json → Prop} (leaf : ∀ v, v.isObject = false → P v)
    (obj : ∀ members : List (String × Json), (∀ e ∈ members, P e.2) → P (.obj members)) :
    ∀ members : List (String × Json), ∀ e ∈ members, P e.2
  | [] => nofun
  | (_, value) :: rest => List.forall_mem_cons.mpr
    ⟨objectInduction leaf obj value, forall_mem_of_objectInduction leaf obj rest⟩

end

/-! ## The order of members -/

/-- Two values that are equal up to the order of members in the objects that are reached through objects.
What is no object is the same in both. -/
inductive SameUpToOrder : Json → Json → Prop
  | same (v : Json) : SameUpToOrder v v
  | obj {ms ns : List (String × Json)} (hkeys : (Record.keys ms).Perm (Record.keys ns))
      (hvalues : ∀ key v w, Record.get? ms key = some v → Record.get? ns key = some w →
        SameUpToOrder v w) :
      SameUpToOrder (.obj ms) (.obj ns)

/-- A value without what is in it: an object without its members, anything else as it is. -/
def shell : Json → Json
  | .obj _ => .obj []
  | v => v

theorem shell_of_leaf {v : Json} (h : v.isObject = false) : v.shell = v := by
  cases v with
  | obj members => cases h
  | null | bool | num | str | arr => rfl

@[simp] theorem isObject_shell (v : Json) : v.shell.isObject = v.isObject := by cases v <;> rfl

/-- What looks like a leaf is that leaf. -/
theorem eq_of_shell_eq {v w : Json} (h : v.isObject = false) (hshell : v.shell = w.shell) : w = v := by
  have hw : w.isObject = false := by rw [← isObject_shell, ← hshell, isObject_shell, h]
  rw [← shell_of_leaf h, hshell, shell_of_leaf hw]

/-- Along every path, two values that are equal up to the order of members look the same. -/
theorem SameUpToOrder.follow? {v w : Json} (h : SameUpToOrder v w) (keys : List String) :
    (DataModel.follow? v keys).map shell = (DataModel.follow? w keys).map shell := by
  induction h generalizing keys with
  | same v => rfl
  | @obj ms ns hkeys hvalues ih =>
    cases keys with
    | nil => rfl
    | cons key keys =>
      show (get? ms (key :: keys)).map shell = (get? ns (key :: keys)).map shell
      rw [get?_cons, get?_cons]
      -- the members have the same keys, so both ways go on or both end
      cases hv : Record.get? ms key with
      | none =>
        have hw : Record.get? ns key = none := by
          rw [Record.get?_eq_none_iff, ← hkeys.mem_iff, ← Record.get?_eq_none_iff, hv]
        rw [hw]
      | some v =>
        obtain ⟨w, hw⟩ : ∃ w, Record.get? ns key = some w := by
          have hmem := hkeys.mem_iff.mp (Record.mem_keys_of_mem (Record.mem_of_get?_eq_some hv))
          exact Option.isSome_iff_exists.mp ((Record.has_iff_mem_keys ns key).mpr hmem)
        rw [hw]
        exact ih key v w hv hw keys

/-- Well-formed values that look the same along every path are equal up to the order of members. -/
theorem sameUpToOrder_of_follow? (v : Json) : ∀ w : Json, v.WellFormed → w.WellFormed →
    (∀ keys, (follow? v keys).map shell = (follow? w keys).map shell) → SameUpToOrder v w := by
  induction v using objectInduction with
  | leaf v hv =>
    intro w _ _ h
    have hshell : v.shell = w.shell := by simpa [DataModel.follow?] using h []
    rw [eq_of_shell_eq hv hshell]
    exact SameUpToOrder.same v
  | obj ms ih =>
    intro w hms hw h
    have hroot : (obj ms).shell = w.shell := by simpa [DataModel.follow?] using h []
    obtain ⟨ns, rfl⟩ : ∃ ns, w = .obj ns := by
      cases w with
      | obj ns => exact ⟨ns, rfl⟩
      | null | bool | num | str | arr => cases hroot
    -- under each name there is something in both or in neither
    have hunder : ∀ key keys, ((Record.get? ms key).bind (DataModel.follow? · keys)).map shell =
        ((Record.get? ns key).bind (DataModel.follow? · keys)).map shell := by
      intro key keys
      rw [← get?_cons, ← get?_cons]
      exact h (key :: keys)
    refine SameUpToOrder.obj ?_ fun key v w hv hw' => ?_
    · refine (List.perm_ext_iff_of_nodup (wellFormed_obj_iff.mp hms).1 (wellFormed_obj_iff.mp hw).1).mpr
        fun key => ?_
      have hkey := congrArg Option.isSome (hunder key [])
      simp only [DataModel.follow?, Option.isSome_map, Option.bind_fun_some] at hkey
      rw [← Record.has_iff_mem_keys, ← Record.has_iff_mem_keys, Record.has, Record.has, hkey]
    · refine ih (key, v) (Record.mem_of_get?_eq_some hv) w (wellFormed_of_get? hms hv)
        (wellFormed_of_get? hw hw') fun keys => ?_
      have hinside := hunder key keys
      rw [hv, hw', Option.bind_some, Option.bind_some] at hinside
      exact hinside

/-- Well-formed objects are equal up to the order of members exactly if they look the same along every
path. -/
theorem sameUpToOrder_iff {ms ns : DataModel} (hms : (obj ms).WellFormed) (hns : (obj ns).WellFormed) :
    SameUpToOrder (.obj ms) (.obj ns) ↔ ∀ keys, (get? ms keys).map shell = (get? ns keys).map shell :=
  ⟨fun h => h.follow?, sameUpToOrder_of_follow? (.obj ms) (.obj ns) hms hns⟩

/-- A leaf of one of two objects that look the same is a leaf of the other. -/
theorem get?_eq_of_shell_eq {ms ns : DataModel}
    (h : ∀ keys, (get? ms keys).map shell = (get? ns keys).map shell) {keys : List String} {leaf : Json}
    (hleaf : get? ms keys = some leaf) (hobject : leaf.isObject = false) :
    get? ns keys = some leaf := by
  have hkeys := h keys
  rw [hleaf, Option.map_some] at hkeys
  obtain ⟨w, hw, hshell⟩ := Option.map_eq_some_iff.mp hkeys.symm
  rw [hw, eq_of_shell_eq hobject hshell.symm]

/-! ## Overlays -/

/-- An overlay whose members stand in another order makes the same of a model, up to that order. -/
theorem SameUpToOrder.merge {ms ns : DataModel} (h : SameUpToOrder (.obj ms) (.obj ns))
    (hms : (Json.obj ms).WellFormed) (hns : (Json.obj ns).WellFormed) {base : DataModel}
    (hbase : (Json.obj base).WellFormed) :
    SameUpToOrder (.obj (DataModel.merge base ms)) (.obj (DataModel.merge base ns)) := by
  have hshell := (sameUpToOrder_iff hms hns).mp h
  have hmerge : ∀ {members : DataModel}, (Json.obj members).WellFormed →
      (Json.obj (DataModel.merge base members)).WellFormed := fun hmembers =>
    DataModel.wellFormed_merge hbase _ (wellFormed_obj_iff.mp hmembers).2
  refine (sameUpToOrder_iff (hmerge hms) (hmerge hns)).mpr fun keys => ?_
  -- by where the path leads in what is laid over, which is the same for both
  rcases DataModel.path_cases ms keys with ⟨leaf, hleaf, hobject⟩ | ⟨inner, hinner⟩ |
    ⟨before, leaf, key, behind, rfl, hleaf, hobject⟩ | ⟨hnone, hway⟩
  · have hleaf' := get?_eq_of_shell_eq hshell hleaf hobject
    rw [DataModel.get?_merge_of_leaf hms base hleaf hobject,
      DataModel.get?_merge_of_leaf hns base hleaf' hobject]
  · obtain ⟨other, hother⟩ : ∃ other, get? ns keys = some (.obj other) := by
      have hkeys := hshell keys
      rw [hinner] at hkeys
      obtain ⟨w, hw, hwshell⟩ := Option.map_eq_some_iff.mp hkeys.symm
      cases w with
      | obj other => exact ⟨other, hw⟩
      | null | bool | num | str | arr => cases hwshell
    rw [DataModel.get?_merge_of_obj hms base hinner, DataModel.get?_merge_of_obj hns base hother]
    rfl
  · have hleaf' := get?_eq_of_shell_eq hshell hleaf hobject
    rw [DataModel.get?_merge_below_leaf hms base hleaf hobject,
      DataModel.get?_merge_below_leaf hns base hleaf' hobject]
  · have hnone' : get? ns keys = none := by
      have hkeys := hshell keys
      rw [hnone, Option.map_none] at hkeys
      exact Option.map_eq_none_iff.mp hkeys.symm
    have hway' : ∀ before leaf key behind, keys = before ++ key :: behind →
        get? ns before = some leaf → leaf.isObject = true := by
      intro before leaf key behind hkeys hleaf
      cases hobject : leaf.isObject with
      | true => rfl
      | false =>
        have hleaf' := get?_eq_of_shell_eq (fun keys => (hshell keys).symm) hleaf hobject
        rw [← hobject, hway before leaf key behind hkeys hleaf']
    rw [DataModel.get?_merge_of_none hms base hnone hway,
      DataModel.get?_merge_of_none hns base hnone' hway']

end UiSurface.Json
