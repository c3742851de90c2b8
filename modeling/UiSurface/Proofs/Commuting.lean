import UiSurface.Proofs.Grafts

/-!
# Updates that may change places

Two updates of one surface that touch different parts of it may change places.  One defines components
and the other changes the data model, or both define components and share no id, or both write at paths
that part.  What they leave is equal up to the order in which new components and new members stand, and
each of them is accepted in the one order exactly if it is in the other.

Writes under a name are edits, so all of this comes from edits of different names: they act on different
entries, and only those that they add at the end can stand in another order.  Two paths that part share
a beginning, along which both writes make the same objects; behind it they are edits of different names.

Main lemmas: `Json.sameUpToOrder_set_set` (writes at paths that part), `Message.Independent.onSurface`
(what two updates leave of a surface), `isAccepted_congr` (when they are accepted),
`independent_updates_commute`.
-/

namespace UiSurface

/-! ## Writes at paths that part -/

namespace DataModel

/-- A write is an edit of what stands under its first key. -/
theorem exists_set_eq_edit (key : String) (keys : List String) (value : Json) :
    ∃ f : Option Json → Json, ∀ model, set model (key :: keys) value =
      Record.edit model [(key, f)] := by
  cases keys with
  | nil => exact ⟨fun _ => value, fun _ => rfl⟩
  | cons next rest => exact ⟨_, fun model => set_cons_eq_edit model key next rest value⟩

/-- The object that was written under a key is found there. -/
theorem childObject_put_self (model : DataModel) (key : String) (members : DataModel) :
    childObject (Record.put model key (.obj members)) key = members := by
  simp [childObject]

end DataModel

namespace Json

open DataModel (set set_cons_cons childObject exists_set_eq_edit childObject_put_self)

/-- Edits of different names leave objects that are equal up to the order of members. -/
theorem sameUpToOrder_edit_append (r : Record Json) {a b : List (String × (Option Json → Json))}
    (h : ∀ e ∈ a, ∀ f ∈ b, e.1 ≠ f.1) :
    SameUpToOrder (.obj (Record.edit r (a ++ b))) (.obj (Record.edit r (b ++ a))) := by
  refine SameUpToOrder.obj ((Record.edit_append_perm h r).map Prod.fst) fun key v w hv hw => ?_
  rw [Record.get?_edit, Record.editAt_append_comm h, ← Record.get?_edit, hw] at hv
  obtain rfl := Option.some.inj hv
  exact SameUpToOrder.same w

/-- Under one name, values that are equal up to order make objects that are so. -/
theorem SameUpToOrder.put {v w : Json} (h : SameUpToOrder v w) (r : Record Json) (key : String) :
    SameUpToOrder (.obj (Record.put r key v)) (.obj (Record.put r key w)) := by
  refine SameUpToOrder.obj ?_ fun other v' w' hv hw => ?_
  · -- the key keeps its place, or comes last in both
    by_cases hkey : key ∈ Record.keys r
    · rw [Record.keys_put_of_mem r v hkey, Record.keys_put_of_mem r w hkey]
    · rw [Record.keys_put_of_not_mem r v hkey, Record.keys_put_of_not_mem r w hkey]
  · rw [Record.get?_put] at hv hw
    split at hv
    · rename_i hother
      rw [if_pos hother] at hw
      obtain rfl := Option.some.inj hv
      obtain rfl := Option.some.inj hw
      exact h
    · rename_i hother
      rw [if_neg hother, hv] at hw
      obtain rfl := Option.some.inj hw
      exact SameUpToOrder.same v'

/-- Writes at paths that part may change places, up to the order of members. -/
theorem sameUpToOrder_set_set (model : DataModel) {p q : List String} (h : Path.Apart p q)
    (v w : Json) :
    SameUpToOrder (.obj (set (set model p v) q w)) (.obj (set (set model q w) p v)) := by
  induction p generalizing model q with
  | nil => exact absurd List.nil_prefix h.1
  | cons key p ih =>
    cases q with
    | nil => exact absurd List.nil_prefix h.2
    | cons other q =>
      by_cases hkey : key = other
      · subst hkey
        have hrest : Path.Apart p q := by
          constructor
          · exact fun hp => h.1 (List.cons_prefix_cons.mpr ⟨rfl, hp⟩)
          · exact fun hq => h.2 (List.cons_prefix_cons.mpr ⟨rfl, hq⟩)
        -- both paths go on, so each write makes an object here and goes into it
        cases p with
        | nil => exact absurd List.nil_prefix hrest.1
        | cons next p =>
          cases q with
          | nil => exact absurd List.nil_prefix hrest.2
          | cons second q =>
            have hinside := ih (childObject model key) hrest
            simp only [set_cons_cons, childObject_put_self, Record.put_put]
            exact hinside.put model key
      · obtain ⟨f, hf⟩ := exists_set_eq_edit key p v
        obtain ⟨g, hg⟩ := exists_set_eq_edit other q w
        rw [hf, hg, hg, hf, ← Record.edit_append, ← Record.edit_append]
        refine sameUpToOrder_edit_append model ?_
        intro e he e' he'
        obtain rfl := List.mem_singleton.mp he
        obtain rfl := List.mem_singleton.mp he'
        exact hkey

end Json

/-! ## Updates of one surface -/

/-- Two surfaces that differ at most in the order of their components and of the members of their data
models. -/
structure Surface.SameUpToOrder (x y : Surface) : Prop where
  rest : y = { x with components := y.components, model := y.model }
  components : x.components.Perm y.components
  model : Json.SameUpToOrder (.obj x.model) (.obj y.model)

theorem Surface.SameUpToOrder.refl (x : Surface) : x.SameUpToOrder x :=
  ⟨rfl, List.Perm.refl _, Json.SameUpToOrder.same _⟩

theorem Surface.sameUpToOrder_refl (x : Option Surface) : Option.Rel SameUpToOrder x x := by
  cases x with
  | none => exact Option.Rel.none
  | some s => exact Option.Rel.some (SameUpToOrder.refl s)

namespace Message

/-- Two updates of a surface that touch different parts of it. -/
inductive Independent (id : String) : Message → Message → Prop
  /-- one defines components, the other changes the data model, in whatever way -/
  | componentsAndModel (cs : List Component) (update : ModelUpdate) :
      Independent id (.updateComponents id cs) (.updateDataModel id update)
  /-- both define components, of different ids -/
  | components {cs ds : List Component} (h : ∀ c ∈ cs, ∀ d ∈ ds, c.id ≠ d.id) :
      Independent id (.updateComponents id cs) (.updateComponents id ds)
  /-- both write at paths with keys, and neither path goes on from the other -/
  | paths {p q : String} (v w : Json) (h : Path.Apart (Path.segments p) (Path.segments q)) :
      Independent id (.updateDataModel id (.write (some p) v))
        (.updateDataModel id (.write (some q) w))

variable {id : String} {m n : Message}

/-- Independent messages are both about the surface. -/
theorem Independent.surface (h : m.Independent id n) : m.surface = id ∧ n.surface = id := by
  cases h <;> exact ⟨rfl, rfl⟩

/-- A write at a path with keys, as a change of a surface. -/
theorem onSurface_write {path : String} (h : Path.segments path ≠ []) (id : String) (value : Json)
    (acceptsOverlay : Bool) (s : Surface) :
    (updateDataModel id (.write (some path) value)).onSurface acceptsOverlay (some s) =
      some { s with model := s.model.set (Path.segments path) value } := by
  simp only [onSurface, Option.map_some, Store.updatedModel_write h]

/-- Independent updates leave of a surface the same in both orders, up to order. -/
theorem Independent.onSurface (h : m.Independent id n) (acceptsOverlay : Bool) (x : Option Surface) :
    Option.Rel Surface.SameUpToOrder (n.onSurface acceptsOverlay (m.onSurface acceptsOverlay x))
      (m.onSurface acceptsOverlay (n.onSurface acceptsOverlay x)) := by
  cases x with
  | none => cases h <;> exact Option.Rel.none
  | some s =>
    -- the updates write different fields, different components or different paths
    cases h with
    | componentsAndModel cs update =>
      simp only [Message.onSurface, Option.map_some]
      cases Store.updatedModel acceptsOverlay s.model update <;>
        exact Option.Rel.some (Surface.SameUpToOrder.refl _)
    | components hids =>
      have hperm := s.components.upsertAll_upsertAll_perm hids
      exact Option.Rel.some ⟨rfl, hperm, Json.SameUpToOrder.same _⟩
    | @paths p q v w hapart =>
      have hp : Path.segments p ≠ [] := fun hnil => hapart.1 (hnil ▸ List.nil_prefix)
      have hq : Path.segments q ≠ [] := fun hnil => hapart.2 (hnil ▸ List.nil_prefix)
      rw [onSurface_write hp, onSurface_write hq, onSurface_write hq, onSurface_write hp]
      exact Option.Rel.some
        ⟨rfl, List.Perm.refl _, Json.sameUpToOrder_set_set s.model hapart v w⟩

end Message

namespace Store

/-! ## Verdicts -/

/-- Whether an update of a data model can be made does not depend on the model. -/
theorem isOk_updatedModel (acceptsOverlay : Bool) (model other : DataModel) (update : ModelUpdate) :
    (updatedModel acceptsOverlay model update).isOk =
      (updatedModel acceptsOverlay other update).isOk := by
  cases update with
  | overlay entries => cases acceptsOverlay <;> rfl
  | write path value =>
    simp only [updatedModel]
    by_cases hroot : (path.isNone || path == some "/") = true
    · simp only [hroot, if_true]
    · cases hkeys : (Path.segments (path.getD "")).isEmpty <;> simp [hroot, Except.isOk, Except.toBool]

/-- An update of components is refused only where there is no surface, or nothing any more. -/
theorem isAccepted_updateComponents (s : Store) (id : String) (cs : List Component) :
    (s.apply (.updateComponents id cs)).2.isAccepted =
      (!s.disposed && (s.surface? id).isSome) := by
  unfold apply
  cases s.disposed with
  | true => rfl
  | false => cases hsurface : s.surface? id <;> simp [effect, hsurface, Outcome.isAccepted]

/-- A change of a data model is refused where there is no surface, or for itself. -/
theorem isAccepted_updateDataModel (s : Store) (id : String) (update : ModelUpdate) :
    (s.apply (.updateDataModel id update)).2.isAccepted =
      (!s.disposed && (s.surface? id).isSome && (updatedModel s.acceptsOverlay [] update).isOk) := by
  unfold apply
  cases s.disposed with
  | true => rfl
  | false =>
    cases hsurface : s.surface? id with
    | none => simp [effect, hsurface, Outcome.isAccepted]
    | some x =>
      rw [isOk_updatedModel s.acceptsOverlay [] x.model update]
      cases hmodel : updatedModel s.acceptsOverlay x.model update <;>
        simp [effect, hsurface, hmodel, Outcome.isAccepted, Except.isOk, Except.toBool]

/-- Updates are accepted alike by two stores of the same settings that both have their surface, or both
lack it. -/
theorem isAccepted_congr {s t : Store} {id : String} {m n : Message} (h : m.Independent id n)
    (hsettings : SameSettings s t) (hsurface : (t.surface? id).isSome = (s.surface? id).isSome) :
    (t.apply m).2.isAccepted = (s.apply m).2.isAccepted ∧
      (t.apply n).2.isAccepted = (s.apply n).2.isAccepted := by
  obtain ⟨haccepts, hdisposed⟩ := hsettings
  cases h <;>
    simp only [isAccepted_updateComponents, isAccepted_updateDataModel, haccepts, hdisposed, hsurface,
      and_self]

/-- An update neither creates a surface nor deletes one. -/
theorem isSome_surface?_apply {s : Store} {id : String} {m n : Message} (h : m.Independent id n) :
    ((s.apply m).1.surface? id).isSome = (s.surface? id).isSome ∧
      ((s.apply n).1.surface? id).isSome = (s.surface? id).isSome := by
  cases hs : s.disposed with
  | true => simp only [apply_of_disposed hs, and_self]
  | false =>
    simp only [surface?_apply hs, h.surface, if_true]
    cases h <;> simp [Message.onSurface]

/-- Independent updates of one surface may change places.  One defines components and the other changes
the data model; or both define components, of different ids; or both write at paths with keys, neither
of which goes on from the other.  Whatever the store, the two orders leave surfaces under the same ids,
and under each id surfaces that are equal up to the order of components and of members.  This does not
depend on the updates being accepted, and each is accepted in one order exactly if it is in the other. -/
theorem independent_updates_commute (s : Store) {id : String} {m n : Message}
    (h : m.Independent id n) :
    let forth := s.applyAll [m, n]
    let back := s.applyAll [n, m]
    (∀ other, Option.Rel Surface.SameUpToOrder (forth.1.surface? other) (back.1.surface? other)) ∧
      forth.2.map Outcome.isAccepted = (back.2.map Outcome.isAccepted).reverse := by
  intro forth back
  constructor
  · intro other
    cases hs : s.disposed with
    | true =>
      have hforth : forth.1 = s := applyAll_of_disposed hs [m, n]
      have hback : back.1 = s := applyAll_of_disposed hs [n, m]
      rw [hforth, hback]
      exact Surface.sameUpToOrder_refl _
    | false =>
      obtain ⟨hm, hn⟩ := h.surface
      have hforth := surface?_applyAll hs [m, n] other
      have hback := surface?_applyAll hs [n, m] other
      by_cases hother : id = other
      · subst hother
        simp only [List.filter_cons, hm, hn, beq_self_eq_true, if_true, List.filter_nil,
          List.foldl_cons, List.foldl_nil] at hforth hback
        rw [hforth, hback]
        exact h.onSurface s.acceptsOverlay (s.surface? id)
      · have hne : (id == other) = false := by simpa using hother
        simp only [List.filter_cons, hm, hn, hne, List.filter_nil, List.foldl_nil,
          Bool.false_eq_true, if_false] at hforth hback
        rw [hforth, hback]
        exact Surface.sameUpToOrder_refl _
  · obtain ⟨hsome, hsome'⟩ := isSome_surface?_apply (s := s) h
    -- each update meets the other's store as it meets the first
    have hsecond := (isAccepted_congr h (s.sameSettings_apply m) hsome).2
    have hfirst := (isAccepted_congr h (s.sameSettings_apply n) hsome').1
    simp only [forth, back, applyAll, List.map_cons, List.map_nil, List.reverse_cons,
      List.reverse_nil, List.nil_append, List.singleton_append, hsecond, hfirst]

/-- Two writes through a number: whichever comes first makes the object that both go into. -/
theorem two_writes_through_a_number_commute :
    let s := ((empty true).applyAll [.createSurface "tile" .null .null [],
      .updateDataModel "tile" (.write none (.obj [("a", .ofInt 1)]))]).1
    let m : Message := .updateDataModel "tile" (.write (some "/a/b") (.bool true))
    let n : Message := .updateDataModel "tile" (.write (some "a//c/") (.obj []))
    let forth := s.applyAll [m, n]
    let back := s.applyAll [n, m]
    m.Independent "tile" n ∧
      Option.Rel Surface.SameUpToOrder (forth.1.surface? "tile") (back.1.surface? "tile") ∧
      forth.2.map Outcome.isAccepted = (back.2.map Outcome.isAccepted).reverse ∧
      (forth.1.surface? "tile").map Surface.model =
        some [("a", .obj [("b", .bool true), ("c", .obj [])])] ∧
      (back.1.surface? "tile").map Surface.model =
        some [("a", .obj [("c", .obj []), ("b", .bool true)])] := by
  intro s m n forth back
  have hindependent : m.Independent "tile" n := by
    refine Message.Independent.paths _ _ ?_
    simp only [Path.Apart]
    decide +kernel
  obtain ⟨hsurfaces, hverdicts⟩ := independent_updates_commute s hindependent
  exact ⟨hindependent, hsurfaces "tile", hverdicts, by decide +kernel, by decide +kernel⟩

end Store

end UiSurface
