import UiSurface.Proofs.Replay

/-!
# Branches of a data model

What is found along a path after one branch was written, and after an overlay was laid over a model.
Both change a model at one level by writing under a name, so what is found further in is told one key
at a time, from the object that stands under that key.

Main lemmas: `get?_set_append`, `get?_set_above` and `get?_set_beside` (a write seen from below, above
and beside its path), `get?_merge_cons` (an overlay, one key further in), `write_changes_one_branch`,
`overlay_path_by_path`.
-/

namespace UiSurface.DataModel

open Json (wellFormed_obj_iff wellFormed_of_get?)

/-! ## Walking further -/

/-- The first key is followed in the members, and the others from what stands there. -/
theorem follow?_cons (v : Json) (key : String) (keys : List String) :
    follow? v (key :: keys) = (v.members?.bind (Record.get? · key)).bind (follow? · keys) := by
  cases v with
  | obj members => cases h : Record.get? members key <;> simp [follow?, Json.members?, h]
  | null | bool | num | str | arr => simp [follow?, Json.members?]

theorem get?_cons (model : DataModel) (key : String) (keys : List String) :
    get? model (key :: keys) = (Record.get? model key).bind (follow? · keys) :=
  follow?_cons (.obj model) key keys

/-- A list of keys may be followed in two parts. -/
theorem follow?_append (v : Json) (before behind : List String) :
    follow? v (before ++ behind) = (follow? v before).bind (follow? · behind) := by
  induction before generalizing v with
  | nil => simp [follow?]
  | cons key before ih =>
    simp only [List.cons_append, follow?_cons, ih, Option.bind_assoc]

theorem get?_append (model : DataModel) (before behind : List String) :
    get? model (before ++ behind) = (get? model before).bind (follow? · behind) :=
  follow?_append (.obj model) before behind

/-- Nothing is found below what is no object. -/
theorem follow?_of_leaf {v : Json} (h : v.isObject = false) (key : String) (keys : List String) :
    follow? v (key :: keys) = none := by
  have hmembers : v.members? = none := by simpa [Json.isObject] using h
  simp [follow?_cons, hmembers]

/-- The object that something is found below. -/
theorem exists_obj_of_follow? {v w : Json} {key : String} {keys : List String}
    (h : follow? v (key :: keys) = some w) :
    ∃ members, v = .obj members ∧ key ∈ Record.keys members := by
  cases v with
  | obj members =>
    refine ⟨members, rfl, ?_⟩
    obtain ⟨child, hchild, -⟩ := Option.bind_eq_some_iff.mp ((get?_cons members key keys).symm.trans h)
    exact Record.mem_keys_of_mem (Record.mem_of_get?_eq_some hchild)
  | null | bool | num | str | arr => cases h

/-- Above what is found stand objects. -/
theorem exists_obj_of_get?_append {model : DataModel} {before behind : List String} {key : String}
    {v : Json} (h : get? model (before ++ key :: behind) = some v) :
    ∃ members, get? model before = some (.obj members) ∧ key ∈ Record.keys members := by
  rw [get?_append] at h
  obtain ⟨w, hw, hbehind⟩ := Option.bind_eq_some_iff.mp h
  obtain ⟨members, rfl, hkey⟩ := exists_obj_of_follow? hbehind
  exact ⟨members, hw, hkey⟩

/-- What stands in a well-formed value is well formed. -/
theorem wellFormed_of_follow? {v w : Json} (hv : v.WellFormed) {keys : List String}
    (h : follow? v keys = some w) : w.WellFormed := Json.hereditary_wellFormed.follow? hv h

/-- Where no object stands, a walk finds as much as in an empty one. -/
theorem get?_objectUnder (x : Option Json) (key : String) (keys : List String) :
    get? (objectUnder x) (key :: keys) = x.bind (follow? · (key :: keys)) := by
  cases x with
  | none => rfl
  | some v =>
    cases v with
    | obj members => rfl
    | null | bool | num | str | arr => rfl

theorem objectUnder_get?_childObject (model : DataModel) (key : String) (keys : List String) :
    objectUnder (get? (childObject model key) keys) = objectUnder (get? model (key :: keys)) := by
  rw [get?_cons, childObject_eq]
  cases keys with
  | nil =>
    have hfound : (Record.get? model key).bind (follow? · []) = Record.get? model key := by
      cases Record.get? model key <;> rfl
    rw [hfound]
    rfl
  | cons next rest => rw [get?_objectUnder]

/-- A name stands in what a change finds just if there is an object with it. -/
theorem mem_keys_objectUnder {x : Option Json} {key : String} :
    key ∈ Record.keys (objectUnder x) ↔
      ∃ members, x = some (.obj members) ∧ key ∈ Record.keys members := by
  unfold objectUnder
  split
  · simp
  · rename_i hne
    constructor
    · intro h
      cases h
    · rintro ⟨members, rfl, -⟩
      exact absurd rfl (hne members)

/-! ## One branch -/

theorem set_cons_cons (model : DataModel) (key next : String) (rest : List String) (value : Json) :
    set model (key :: next :: rest) value =
      Record.put model key (.obj (set (childObject model key) (next :: rest) value)) := rfl

/-- At the end of its path, and below, a write shows what it wrote. -/
theorem get?_set_append (model : DataModel) {keys : List String} (h : keys ≠ []) (value : Json)
    (rest : List String) : get? (set model keys value) (keys ++ rest) = follow? value rest := by
  cases keys with
  | nil => exact absurd rfl h
  | cons key keys => rw [get?_append, get?_set_self, Option.bind_some]

/-- Above the end of its path, a write shows the object that stood there, with the rest of the branch
written into it; what was no object has given way to one. -/
theorem get?_set_above (model : DataModel) (before : List String) (key : String)
    (behind : List String) (value : Json) :
    get? (set model (before ++ key :: behind) value) before =
      some (.obj (set (objectUnder (get? model before)) (key :: behind) value)) := by
  induction before generalizing model with
  | nil => rfl
  | cons first before ih =>
    -- the path goes on behind its first key, so an object is written there
    obtain ⟨next, rest, hrest⟩ : ∃ next rest, before ++ key :: behind = next :: rest := by
      cases before <;> exact ⟨_, _, rfl⟩
    rw [List.cons_append, hrest, set_cons_cons, get?_cons, Record.get?_put_self, Option.bind_some,
      ← hrest, ← objectUnder_get?_childObject]
    exact ih (childObject model first)

/-- Beside its path a write changes nothing. -/
theorem get?_set_beside (model : DataModel) {keys other : List String} (h : ¬ keys <+: other)
    (h' : ¬ other <+: keys) (value : Json) :
    get? (set model keys value) other = get? model other := by
  induction keys generalizing model other with
  | nil => exact absurd List.nil_prefix h
  | cons key keys ih =>
    cases other with
    | nil => exact absurd List.nil_prefix h'
    | cons first others =>
      by_cases hkey : key = first
      · subst hkey
        rw [List.cons_prefix_cons, not_and] at h h'
        have hothers := h rfl
        have hkeys := h' rfl
        -- both paths go on, and part further in
        cases keys with
        | nil => exact absurd List.nil_prefix hothers
        | cons next rest =>
          cases others with
          | nil => exact absurd List.nil_prefix hkeys
          | cons second others =>
            rw [set_cons_cons, get?_cons, Record.get?_put_self, Option.bind_some, get?_cons model]
            have hinside := ih (childObject model key) hothers hkeys
            rw [childObject_eq, get?_objectUnder] at hinside
            exact hinside
      · cases keys with
        | nil => rw [set, get?_cons, get?_cons, Record.get?_put_of_ne _ _ hkey]
        | cons next rest =>
          rw [set_cons_cons, get?_cons, get?_cons, Record.get?_put_of_ne _ _ hkey]

/-- To write at a path changes one branch.  Let `p` be a path with a key.  Afterwards the value is found
at every path of the same keys, and what is found below it is found in the value: nothing below what
is no object.  On the way to it stands the object that stood there, an empty one if there was none,
with the rest of the branch.  Along any other path, what is found is what was found before. -/
theorem write_changes_one_branch (model : DataModel) (value : Json) {p : String}
    (hp : Path.segments p ≠ []) (q : String) :
    let found := get? (set model (Path.segments p) value) (Path.segments q)
    (Path.segments q = Path.segments p → found = some value) ∧
    (∀ rest, Path.segments q = Path.segments p ++ rest → found = follow? value rest) ∧
    (∀ before leaf key behind, Path.segments q = Path.segments p ++ before ++ key :: behind →
      follow? value before = some leaf → leaf.isObject = false → found = none) ∧
    (∀ key behind, Path.segments p = Path.segments q ++ key :: behind →
      found = some (.obj
        (set (objectUnder (get? model (Path.segments q))) (key :: behind) value))) ∧
    (¬ Path.segments p <+: Path.segments q → ¬ Path.segments q <+: Path.segments p →
      found = get? model (Path.segments q)) := by
  intro found
  have hbelow : ∀ rest, Path.segments q = Path.segments p ++ rest → found = follow? value rest := by
    intro rest hq
    simp only [found, hq]
    exact get?_set_append model hp value rest
  refine ⟨fun hq => ?_, hbelow, ?_, ?_, fun hpq hqp => get?_set_beside model hpq hqp value⟩
  · have hself := hbelow [] (by rw [hq, List.append_nil])
    simpa [follow?] using hself
  · intro before leaf key behind hq hleaf hobject
    rw [hbelow (before ++ key :: behind) (by rw [hq, List.append_assoc]), follow?_append, hleaf,
      Option.bind_some]
    exact follow?_of_leaf hobject key behind
  · intro key behind hq
    simp only [found, hq]
    exact get?_set_above model _ key behind value

/-- A value written through a number, over an object: what is found at, below, above and beside it. -/
theorem write_through_a_number :
    let model : DataModel := [("a", .ofInt 1), ("c", .obj [("d", .null)])]
    let written := set model (Path.segments "/a//b") (.obj [("x", .arr [])])
    Path.segments "/a//b" ≠ [] ∧
      get? written (Path.segments "a/b/") = some (.obj [("x", .arr [])]) ∧
      get? written (Path.segments "/a/b/x") = some (.arr []) ∧
      get? written (Path.segments "/a/b/x/y") = none ∧
      get? written (Path.segments "/a") = some (.obj (set [] ["b"] (.obj [("x", .arr [])]))) ∧
      get? written (Path.segments "/c/d") = get? model (Path.segments "/c/d") := by
  intro model written
  have hp : Path.segments "/a//b" ≠ [] := by decide +kernel
  have hbranch := write_changes_one_branch model (.obj [("x", .arr [])]) hp
  refine ⟨hp, (hbranch "a/b/").1 (by decide +kernel), ?_, ?_, ?_, ?_⟩
  · exact (hbranch "/a/b/x").2.1 ["x"] (by decide +kernel)
  · exact (hbranch "/a/b/x/y").2.2.1 ["x"] (.arr []) "y" [] (by decide +kernel) rfl rfl
  · exact (hbranch "/a").2.2.2.1 "b" [] (by decide +kernel)
  · exact (hbranch "/c/d").2.2.2.2 (by decide +kernel) (by decide +kernel)

/-! ## Overlays -/

/-- What is no object replaces what was there. -/
theorem mergeValue_of_leaf {v : Json} (h : v.isObject = false) (x : Option Json) :
    mergeValue x v = v := by
  cases v with
  | obj members => cases h
  | null | bool | num | str | arr => simp [mergeValue]

/-- An overlay acts on each name by itself. -/
theorem get?_merge_key {members : List (String × Json)} (h : (Record.keys members).Nodup)
    (base : DataModel) (key : String) :
    Record.get? (merge base members) key =
      ((Record.get? members key).map (mergeValue (Record.get? base key))).or (Record.get? base key) := by
  induction members generalizing base with
  | nil => simp
  | cons e members ih =>
    obtain ⟨name, value⟩ := e
    obtain ⟨hname, hrest⟩ := List.nodup_cons.mp h
    rw [merge, ih hrest]
    by_cases hkey : name = key
    · subst hkey
      have habsent : Record.get? members name = none :=
        (Record.get?_eq_none_iff members name).mpr hname
      simp [habsent, Record.get?]
    · simp [Record.get?, hkey, Record.get?_put_of_ne]

/-- A merged object has the names of both. -/
theorem mem_keys_merge {base members : List (String × Json)} {key : String} :
    key ∈ Record.keys (merge base members) ↔ key ∈ Record.keys members ∨ key ∈ Record.keys base := by
  induction members generalizing base with
  | nil => simp [Record.keys]
  | cons e members ih =>
    obtain ⟨name, value⟩ := e
    rw [merge, ih, Record.mem_keys_put]
    simp only [Record.keys, List.map_cons, List.mem_cons, or_assoc, or_left_comm]

/-- An overlay, one key further in: where it has a value, that is laid over what is there. -/
theorem get?_merge_cons {members : DataModel} (h : (Json.obj members).WellFormed) (base : DataModel)
    (key : String) (keys : List String) :
    get? (merge base members) (key :: keys) = match Record.get? members key with
      | none => get? base (key :: keys)
      | some (.obj inner) => get? (merge (objectUnder (Record.get? base key)) inner) keys
      | some leaf => follow? leaf keys := by
  rw [get?_cons, get?_merge_key (wellFormed_obj_iff.mp h).1]
  cases hvalue : Record.get? members key with
  | none => rw [Option.map_none, Option.none_or, ← get?_cons]
  | some value =>
    rw [Option.map_some, Option.some_or, Option.bind_some]
    cases value with
    | obj inner =>
      have hinner := wellFormed_of_get? h hvalue
      rw [mergeValue_obj (wellFormed_obj_iff.mp hinner).1]
      rfl
    | null | bool | num | str | arr => rw [mergeValue_of_leaf rfl]

section Merge

variable {members : DataModel} (h : (Json.obj members).WellFormed) (base : DataModel)

include h

/-- Where an overlay has what is no object, that is found. -/
theorem get?_merge_of_leaf {keys : List String} {leaf : Json} (hleaf : get? members keys = some leaf)
    (hobject : leaf.isObject = false) : get? (merge base members) keys = some leaf := by
  induction keys generalizing members base with
  | nil =>
    obtain rfl := Option.some.inj hleaf
    cases hobject
  | cons key keys ih =>
    obtain ⟨value, hvalue, hrest⟩ := Option.bind_eq_some_iff.mp ((get?_cons ..).symm.trans hleaf)
    rw [get?_merge_cons h, hvalue]
    cases value with
    | obj inner => exact ih (wellFormed_of_get? h hvalue) _ hrest
    | null | bool | num | str | arr => exact hrest

/-- Where an overlay has an object, that is found, laid over the object that is there. -/
theorem get?_merge_of_obj {keys : List String} {inner : DataModel}
    (hinner : get? members keys = some (.obj inner)) :
    get? (merge base members) keys = some (.obj (merge (objectUnder (get? base keys)) inner)) := by
  induction keys generalizing members base with
  | nil =>
    obtain rfl := Json.obj.inj (Option.some.inj hinner)
    rfl
  | cons key keys ih =>
    obtain ⟨value, hvalue, hrest⟩ := Option.bind_eq_some_iff.mp ((get?_cons ..).symm.trans hinner)
    cases value with
    | obj next =>
      -- below the first key an object was laid over the object that is there
      have hnext := ih (wellFormed_of_get? h hvalue) (childObject base key) hrest
      rw [objectUnder_get?_childObject] at hnext
      rw [get?_merge_cons h, hvalue]
      exact hnext
    | null | bool | num | str | arr =>
      cases keys with
      | nil => cases hrest
      | cons => cases hrest

/-- Below what is no object in an overlay, nothing is found. -/
theorem get?_merge_below_leaf {before : List String} {leaf : Json}
    (hleaf : get? members before = some leaf) (hobject : leaf.isObject = false) (key : String)
    (behind : List String) : get? (merge base members) (before ++ key :: behind) = none := by
  rw [get?_append, get?_merge_of_leaf h base hleaf hobject, Option.bind_some]
  exact follow?_of_leaf hobject key behind

/-- Where an overlay has nothing, and no leaf on the way, what is found is what was there. -/
theorem get?_merge_of_none {keys : List String} (hnone : get? members keys = none)
    (hway : ∀ before leaf key behind, keys = before ++ key :: behind →
      get? members before = some leaf → leaf.isObject = true) :
    get? (merge base members) keys = get? base keys := by
  induction keys generalizing members base with
  | nil => cases hnone
  | cons key keys ih =>
    rw [get?_merge_cons h]
    cases hvalue : Record.get? members key with
    | none => rfl
    | some value =>
      have hinside : ∀ rest, get? members (key :: rest) = follow? value rest := by
        intro rest
        rw [get?_cons, hvalue, Option.bind_some]
      cases keys with
      | nil =>
        rw [hinside] at hnone
        cases hnone
      | cons next rest =>
        -- the overlay ends on the way, and what it has there is an object
        have hobject := hway [key] value next rest rfl (hinside [])
        cases value with
        | obj inner =>
          have hinner := ih (wellFormed_of_get? h hvalue) (childObject base key)
            ((hinside _).symm.trans hnone) fun before leaf name behind hkeys hleaf =>
              hway (key :: before) leaf name behind (congrArg (key :: ·) hkeys)
                ((hinside before).trans hleaf)
          rw [get?_cons base, ← get?_objectUnder]
          exact hinner
        | null | bool | num | str | arr => cases hobject

end Merge

/-- What a path meets in an object: a leaf, an object, a leaf before its end, or nothing behind objects. -/
theorem path_cases (members : DataModel) (keys : List String) :
    (∃ leaf, get? members keys = some leaf ∧ leaf.isObject = false) ∨
    (∃ inner, get? members keys = some (.obj inner)) ∨
    (∃ before leaf key behind, keys = before ++ key :: behind ∧ get? members before = some leaf ∧
      leaf.isObject = false) ∨
    (get? members keys = none ∧ ∀ before leaf key behind, keys = before ++ key :: behind →
      get? members before = some leaf → leaf.isObject = true) := by
  cases hfound : get? members keys with
  | some v =>
    cases v with
    | obj inner => exact Or.inr (Or.inl ⟨inner, rfl⟩)
    | null | bool | num | str | arr => exact Or.inl ⟨_, rfl, rfl⟩
  | none =>
    by_cases hblocked : ∃ before leaf key behind, keys = before ++ key :: behind ∧
        get? members before = some leaf ∧ leaf.isObject = false
    · exact Or.inr (Or.inr (Or.inl hblocked))
    · refine Or.inr (Or.inr (Or.inr ⟨rfl, fun before leaf key behind hkeys hleaf => ?_⟩))
      cases hobject : leaf.isObject with
      | true => rfl
      | false => exact absurd ⟨before, leaf, key, behind, hkeys, hleaf, hobject⟩ hblocked

/-- An overlay, path by path.  Where the overlay has what is no object, an array say, that is found.
Where it has an object, an object is found that holds the names of the overlay's object and of the one
that was there, and no other.  Below what is no object in the overlay nothing is found.  Along any other
path, what is found is what was found before.  Of the overlay this asks what is so of every object that
is read: no object in it holds a name twice. -/
theorem overlay_path_by_path (base : DataModel) {members : DataModel}
    (h : (Json.obj members).WellFormed) (keys : List String) :
    let found := get? (merge base members) keys
    (∀ leaf, get? members keys = some leaf → leaf.isObject = false → found = some leaf) ∧
    (∀ inner, get? members keys = some (.obj inner) → ∃ merged, found = some (.obj merged) ∧
      ∀ key, key ∈ Record.keys merged ↔ key ∈ Record.keys inner ∨
        ∃ there, get? base keys = some (.obj there) ∧ key ∈ Record.keys there) ∧
    (∀ before leaf key behind, keys = before ++ key :: behind → get? members before = some leaf →
      leaf.isObject = false → found = none) ∧
    (get? members keys = none →
      (∀ before leaf key behind, keys = before ++ key :: behind → get? members before = some leaf →
        leaf.isObject = true) →
      found = get? base keys) := by
  intro found
  refine ⟨fun leaf => get?_merge_of_leaf h base, fun inner hinner => ?_, ?_, get?_merge_of_none h base⟩
  · refine ⟨_, get?_merge_of_obj h base hinner, fun key => ?_⟩
    rw [mem_keys_merge, mem_keys_objectUnder]
  · rintro before leaf key behind hkeys hleaf hobject
    simp only [found, hkeys]
    exact get?_merge_below_leaf h base hleaf hobject key behind

/-- An overlay over a number, an array and an object: the number gives way to an object, the array is
replaced whole, and the objects come together. -/
theorem overlay_over_number_array_and_object :
    let base : DataModel :=
      [("n", .ofInt 1), ("l", .arr [.ofInt 1, .ofInt 2]), ("o", .obj [("x", .ofInt 1)])]
    let members : DataModel :=
      [("n", .obj [("b", .null)]), ("l", .arr [.ofInt 3]), ("o", .obj [("y", .ofInt 2)])]
    (Json.obj members).WellFormed ∧
      get? (merge base members) ["l"] = some (.arr [.ofInt 3]) ∧
      (∃ merged, get? (merge base members) ["o"] = some (.obj merged) ∧
        ∀ key, key ∈ Record.keys merged ↔ key ∈ ["y"] ∨
          ∃ there, get? base ["o"] = some (.obj there) ∧ key ∈ Record.keys there) ∧
      get? (merge base members) ["l", "x"] = none ∧
      get? (merge base members) ["o", "x"] = get? base ["o", "x"] ∧
      get? (merge base members) ["n", "c"] = get? base ["n", "c"] := by
  intro base members
  have h : (Json.obj members).WellFormed := by
    simp [members, Json.WellFormed, Json.WellFormedMembers, Json.WellFormedItems, Record.keys,
      Json.ofInt]
  have hpaths := overlay_path_by_path base h
  -- on the way to these two the overlay has objects only
  have hway : ∀ name other value, get? members [name] = some (.obj value) →
      ∀ before leaf key behind, [name, other] = before ++ key :: behind →
        get? members before = some leaf → leaf.isObject = true := by
    intro name other value hvalue before leaf key behind hkeys hleaf
    rcases before with _ | ⟨first, _ | ⟨second, rest⟩⟩
    · obtain rfl := Option.some.inj hleaf
      rfl
    · obtain ⟨rfl, -⟩ := List.cons.inj hkeys
      obtain rfl := Option.some.inj (hvalue.symm.trans hleaf)
      rfl
    · simp at hkeys
  refine ⟨h, (hpaths ["l"]).1 _ (by decide +kernel) rfl,
    (hpaths ["o"]).2.1 [("y", .ofInt 2)] (by decide +kernel), ?_, ?_, ?_⟩
  · exact (hpaths ["l", "x"]).2.2.1 ["l"] (.arr [.ofInt 3]) "x" [] rfl (by decide +kernel) rfl
  · exact (hpaths ["o", "x"]).2.2.2 (by decide +kernel)
      (hway "o" "x" [("y", .ofInt 2)] (by decide +kernel))
  · exact (hpaths ["n", "c"]).2.2.2 (by decide +kernel)
      (hway "n" "c" [("b", .null)] (by decide +kernel))

end UiSurface.DataModel
