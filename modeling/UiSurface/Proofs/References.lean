import UiSurface.Proofs.Independence
import UiSurface.Proofs.Renderable

/-!
# References between components, from update to update

Validation judges the references of an update within that update alone.  A table gathers the components
of all updates, and a later component of an id replaces the earlier one whole.  Still, where every update
is without a problem no reference is ever left without its component: what a component refers to comes
in the same update, and no id leaves a table.

The invariant is `ComponentTable.Closed`.  An update keeps it if the update is closed in itself, whatever
it replaces and however often it says an id.

Main lemmas: `Validation.references_of_decode` (the problems of references, told by the components),
`ComponentTable.Closed.upsertAll` (what an update keeps), `Store.Whole.deliver` (one message),
`Store.Whole.deliverAll` (a run), `Store.clean_updates_keep_references_whole`.
-/

namespace UiSurface

namespace Validation

/-! ## The problems of references -/

/-- Where a component lists a child. -/
def childPlace (place : String) (row position : Nat) : String :=
  Place.item (Place.member (Place.member (Place.item place row) "children") "explicitList") position

/-- The problem of the number of roots, of which there should be one. -/
def rootProblems (place : String) (ids : List String) : List Problem :=
  let roots := ids.count Component.rootId
  if roots = 0 then [⟨place, .missingRoot⟩] else require (roots == 1) place (.severalRoots roots)

/-- The problems of the references between components and of the number of roots, told by the
components. -/
def referencesAmong (place : String) (cs : List Component) : List Problem :=
  let ids := cs.map Component.id
  itemwise (fun row c => itemwise (fun position child =>
    require (ids.contains child) (childPlace place row position) (.danglingChild child)) c.childIds) cs ++
  rootProblems place ids

/-- No problem of references is structural. -/
theorem isStructural_of_mem_referencesAmong {place : String} {cs : List Component} {p : Problem}
    (hp : p ∈ referencesAmong place cs) : p.isStructural = false := by
  simp only [referencesAmong, rootProblems, List.mem_append, mem_itemwise, mem_require] at hp
  rcases hp with ⟨row, c, -, position, child, -, -, rfl⟩ | hp
  · rfl
  · split at hp
    · obtain rfl := List.mem_singleton.mp hp
      rfl
    · obtain ⟨-, rfl⟩ := mem_require.mp hp
      rfl

/-- The children that a component lists are those that its object lists. -/
theorem listedChildren_of_decode {v : Json} {c : Component} (h : Component.decode v = .ok c) :
    listedChildren v = c.childIds.map .str := by
  obtain ⟨members, rfl, hmembers⟩ := Component.decode_eq_ok_iff.mp h
  obtain ⟨-, -, hchildren, -⟩ := Component.decodeMembers_eq_ok_iff.mp hmembers
  rcases Component.decodeChildren_eq_ok_iff.mp hchildren with ⟨hnull, hnone⟩ |
    ⟨list, explicit, hlist, hsome, hexplicit⟩
  · simp [listedChildren, hnull, Component.childIds, hnone]
  · rcases hexplicit with ⟨hnull, rfl⟩ | ⟨ids, hids, rfl⟩
    · simp [listedChildren, hlist, hnull, Component.childIds, hsome]
    · simp [listedChildren, hlist, Component.idList?_eq_some_iff.mp hids, Component.childIds, hsome]

/-- Components that decode have the problems of references that are told of them. -/
theorem references_of_decode (place : String) {items : List Json} {cs : List Component}
    (h : Message.decodeComponents items = .ok cs) :
    references place items = referencesAmong place cs := by
  rw [Message.decodeComponents_eq_ok_iff] at h
  have hids : items.filterMap idOf? = cs.map Component.id :=
    Fallible.filterMap_eq_map Component.idOf?_of_decode h
  have hchildren : items.map listedChildren = cs.map fun c => c.childIds.map .str :=
    Fallible.map_eq_map listedChildren_of_decode h
  -- the fields are judged alike, whoever judges them
  have hjudged : ∀ judge : Nat → List Json → List Problem,
      itemwise (fun row v => judge row (listedChildren v)) items =
        itemwise (fun row c => judge row (c.childIds.map .str)) cs := by
    intro judge
    rw [← itemwise_map listedChildren, hchildren, itemwise_map]
  calc references place items
      = itemwise (fun row v => itemwise (fun position child =>
          reference (items.filterMap idOf?) (childPlace place row position) child)
            (listedChildren v)) items ++ rootProblems place (items.filterMap idOf?) := rfl
    _ = itemwise (fun row c => itemwise (fun position child =>
          reference (cs.map Component.id) (childPlace place row position) child)
            (c.childIds.map .str)) cs ++ rootProblems place (cs.map Component.id) := by
      rw [hids, hjudged fun row children => itemwise (fun position child =>
        reference (cs.map Component.id) (childPlace place row position) child) children]
    _ = referencesAmong place cs := by simp only [itemwise_map, reference, referencesAmong]

/-- Components without a problem of references have every child among them. -/
theorem mem_ids_of_references {place : String} {items : List Json} {cs : List Component}
    (h : Message.decodeComponents items = .ok cs) (hsound : references place items = [])
    {c : Component} (hc : c ∈ cs) {child : String} (hchild : child ∈ c.childIds) :
    child ∈ cs.map Component.id := by
  rw [references_of_decode place h] at hsound
  obtain ⟨row, hrow⟩ := List.mem_iff_getElem?.mp hc
  obtain ⟨position, hposition⟩ := List.mem_iff_getElem?.mp hchild
  have hall := itemwise_eq_nil_iff.mp (List.append_eq_nil_iff.mp hsound).1 row c hrow
  have hone := require_eq_nil_iff.mp (itemwise_eq_nil_iff.mp hall position child hposition)
  exact List.contains_iff_mem.mp hone

end Validation

/-- What an update of components without a problem refers to, it defines. -/
theorem Message.mem_ids_of_sound {place : String} {v : Json} {id : String} {cs : List Component}
    (hsound : Validation.message place v = []) (h : decode v = .ok (.updateComponents id cs))
    {c : Component} (hc : c ∈ cs) {child : String} (hchild : child ∈ c.childIds) :
    child ∈ cs.map Component.id := by
  obtain ⟨place, items, hcs, hreferences⟩ := exists_references_of_sound hsound h
  exact Validation.mem_ids_of_references hcs hreferences hc hchild

/-! ## Closed tables -/

namespace ComponentTable

/-- A table with every child that a component of it lists. -/
def Closed (table : ComponentTable) : Prop :=
  ∀ c ∈ Record.values table, ∀ child ∈ c.childIds, child ∈ Record.keys table

/-- A table without dangling references is closed. -/
theorem dangling_eq_nil_iff {table : ComponentTable} : dangling table = [] ↔ Closed table := by
  simp only [dangling, List.flatMap_eq_nil_iff, List.map_eq_nil_iff, missingChildren,
    List.filter_eq_nil_iff, Bool.not_eq_true', Bool.not_eq_false, Record.has_iff_mem_keys, Closed]

/-- Components that refer to none but each other leave a closed table closed. -/
theorem Closed.upsertAll {table : ComponentTable} (h : Closed table) {cs : List Component}
    (hcs : ∀ c ∈ cs, ∀ child ∈ c.childIds, child ∈ cs.map Component.id) :
    Closed (upsertAll table cs) := by
  intro c hc child hchild
  rw [mem_keys_upsertAll]
  obtain ⟨e, he, rfl⟩ := List.mem_map.mp hc
  rcases mem_upsertAll he with ⟨d, hd, rfl⟩ | hold
  · exact Or.inr (List.mem_map.mp (hcs d hd child hchild))
  · -- an older component keeps its children, for a table loses no id
    exact Or.inl (h e.2 (List.mem_map_of_mem hold) child hchild)

end ComponentTable

/-- There is nothing to note of a surface with a root and without dangling references. -/
theorem Caution.ofSurface_eq_nil_iff {x : Surface} :
    ofSurface x = [] ↔ x.isRenderable = true ∧ x.components.dangling = [] := by
  cases hroot : x.isRenderable <;> simp [ofSurface, hroot]

/-! ## Messages as they come -/

namespace Store

namespace Delivery

/-- A message of a kind comes, about a surface. -/
def Says (d : Delivery) (kind : MessageKind) (id : String) : Prop :=
  d.message?.map (fun m => (m.kind, m.surface)) = some (kind, id)

instance (d : Delivery) (kind : MessageKind) (id : String) : Decidable (d.Says kind id) :=
  inferInstanceAs (Decidable (_ = _))

theorem says_iff {d : Delivery} {kind : MessageKind} {id : String} :
    d.Says kind id ↔ ∃ m, d.message? = some m ∧ m.kind = kind ∧ m.surface = id := by
  simp [Says, Option.map_eq_some_iff]

/-- A message comes in an envelope without a problem, or decoded from one. -/
def Clean : Delivery → Prop
  | .envelope members => ∃ place, Validation.message place (.obj members) = []
  | .message m => ∃ place v, Message.decode v = .ok m ∧ Validation.message place v = []

/-- A clean message comes from an envelope without problems. -/
theorem Clean.exists_envelope {d : Delivery} (h : d.Clean) {m : Message} (hm : d.message? = some m) :
    ∃ place v, Message.decode v = .ok m ∧ Validation.message place v = [] := by
  cases d with
  | message m' =>
    obtain rfl := Option.some.inj hm
    exact h
  | envelope members =>
    obtain ⟨place, hsound⟩ := h
    exact ⟨place, .obj members, Fallible.toOption_eq_some_iff.mp hm, hsound⟩

end Delivery

/-- A message does to its surface what it does to surfaces. -/
theorem surface?_apply_self {s : Store} (hs : s.disposed = false) (m : Message) :
    (s.apply m).1.surface? m.surface = m.onSurface s.acceptsOverlay (s.surface? m.surface) := by
  rw [surface?_apply hs, if_pos rfl]

/-- An update of components is accepted where its surface is, with what is to be noted of the surface
that it leaves. -/
theorem outcome_updateComponents {s : Store} (hs : s.disposed = false) {id : String} {x : Surface}
    (hx : s.surface? id = some x) (cs : List Component) :
    (s.apply (.updateComponents id cs)).2 =
      .accepted id (Caution.ofSurface { x with components := x.components.upsertAll cs }) := by
  simp [apply, hs, effect, hx, Message.surface]

/-- The outcome of a message of a run is its outcome after those before it. -/
theorem getElem?_deliverAll (s : Store) (ds : List Delivery) (i : Nat) :
    (s.deliverAll ds).2[i]? = ds[i]?.map fun d => ((s.deliverAll (ds.take i)).1.deliver d).2 := by
  induction ds generalizing s i with
  | nil => rfl
  | cons d ds ih =>
    cases i with
    | zero => rfl
    | succ i => exact ih (s.deliver d).1 i

/-- A store that shows under an id a surface of the usual root whose references are all defined, and the
root with them once the surface is `rooted`. -/
structure Whole (s : Store) (id : String) (rooted : Prop) : Prop where
  inUse : s.disposed = false
  shown : ∃ x, s.surface? id = some x ∧ x.rootId = Component.rootId ∧ x.components.Closed ∧
    (rooted → Record.has x.components Component.rootId = true)

/-- A surface is whole when it is created. -/
theorem whole_of_create {s : Store} {create : Delivery} {id : String}
    (hcreate : create.Says .createSurface id) (haccepted : (s.deliver create).2.isAccepted = true) :
    (s.deliver create).1.Whole id False := by
  obtain ⟨m, hm, hkind, hid⟩ := Delivery.says_iff.mp hcreate
  rw [deliver_of_message? s hm] at haccepted ⊢
  -- a store that is disposed of would not have accepted it
  have hs : s.disposed = false := by
    cases hs : s.disposed with
    | false => rfl
    | true =>
      rw [apply_of_disposed hs] at haccepted
      cases haccepted
  cases m with
  | createSurface created catalogId sendDataModel tokens =>
    obtain rfl : created = id := hid
    have hshown := surface?_apply_self hs (.createSurface created catalogId sendDataModel tokens)
    exact ⟨(s.sameSettings_apply _).2.trans hs, _, hshown, rfl,
      fun c hc => absurd hc List.not_mem_nil, False.elim⟩
  | updateComponents | updateDataModel | deleteSurface => cases hkind

section Whole

variable {s : Store} {id : String} {rooted : Prop} {d : Delivery}

theorem Whole.mono (h : s.Whole id rooted) {rooted' : Prop} (himp : rooted' → rooted) :
    s.Whole id rooted' := by
  obtain ⟨hs, x, hx, hrootId, hclosed, hroot⟩ := h
  exact ⟨hs, x, hx, hrootId, hclosed, fun h => hroot (himp h)⟩

/-- A clean update is accepted with nothing to note, and leaves the surface whole and with a root. -/
theorem Whole.deliver_update (h : s.Whole id rooted) (hd : d.Says .updateComponents id)
    (hclean : d.Clean) : (s.deliver d).2 = .accepted id [] ∧ (s.deliver d).1.Whole id True := by
  obtain ⟨hs, x, hx, hrootId, hclosed, -⟩ := h
  obtain ⟨m, hm, hkind, hid⟩ := Delivery.says_iff.mp hd
  obtain ⟨place, v, hdecode, hsound⟩ := hclean.exists_envelope hm
  cases m with
  | updateComponents updated cs =>
    obtain rfl : updated = id := hid
    obtain ⟨c, hc, hroot⟩ := Message.exists_root_of_sound hsound hdecode hkind
    -- the children of the new components are among them
    have hnext : (x.components.upsertAll cs).Closed :=
      hclosed.upsertAll fun c hc child hchild => Message.mem_ids_of_sound hsound hdecode hc hchild
    have hhas : Record.has (x.components.upsertAll cs) Component.rootId = true :=
      (Record.has_iff_mem_keys _ _).mpr (ComponentTable.mem_keys_upsertAll.mpr (Or.inr ⟨c, hc, hroot⟩))
    have hnone : Caution.ofSurface { x with components := x.components.upsertAll cs } = [] := by
      rw [Caution.ofSurface_eq_nil_iff, Surface.isRenderable, hrootId]
      exact ⟨hhas, ComponentTable.dangling_eq_nil_iff.mpr hnext⟩
    have hafter : (s.apply (.updateComponents updated cs)).1.surface? updated =
        some { x with components := x.components.upsertAll cs } := by
      refine (surface?_apply_self hs (.updateComponents updated cs)).trans ?_
      rw [show s.surface? (Message.updateComponents updated cs).surface = some x from hx]
      rfl
    rw [deliver_of_message? s hm, outcome_updateComponents hs hx, hnone]
    exact ⟨rfl, (s.sameSettings_apply _).2.trans hs, _, hafter, hrootId, hnext, fun _ => hhas⟩
  | createSurface | updateDataModel | deleteSurface => cases hkind

/-- What neither creates nor deletes the surface nor updates its components leaves it as whole as it
is. -/
theorem Whole.deliver_other (h : s.Whole id rooted)
    (hd : ∀ kind, d.Says kind id → kind = .updateDataModel) : (s.deliver d).1.Whole id rooted := by
  cases hm : d.message? with
  | none =>
    obtain ⟨fault, hdeliver⟩ := exists_deliver_of_message?_eq_none hm
    rw [hdeliver]
    exact h
  | some m =>
    obtain ⟨hs, x, hx, hwhole⟩ := h
    rw [deliver_of_message? s hm]
    refine ⟨(s.sameSettings_apply m).2.trans hs, ?_⟩
    -- only an update of the data model is for this surface, and it leaves the components
    by_cases hid : m.surface = id
    · have hkind := hd m.kind (Delivery.says_iff.mpr ⟨m, hm, rfl, hid⟩)
      subst hid
      rw [surface?_apply_self hs, hx]
      cases m with
      | updateDataModel updated update =>
        refine ⟨_, rfl, ?_⟩
        dsimp only
        split
        · exact hwhole
        · exact hwhole
      | createSurface | updateComponents | deleteSurface => cases hkind
    · exact ⟨x, (s.surface?_apply_of_ne hid).trans hx, hwhole⟩

/-- A message in the life of the surface leaves it whole, and an update of its components gives it a
root. -/
theorem Whole.deliver (h : s.Whole id rooted)
    (hlife : ¬ d.Says .createSurface id ∧ ¬ d.Says .deleteSurface id)
    (hclean : d.Says .updateComponents id → d.Clean) :
    (s.deliver d).1.Whole id (rooted ∨ d.Says .updateComponents id) := by
  by_cases hd : d.Says .updateComponents id
  · exact (h.deliver_update hd (hclean hd)).2.mono fun _ => trivial
  · refine (h.deliver_other fun kind hkind => ?_).mono fun hrooted => hrooted.resolve_right hd
    cases kind with
    | updateDataModel => rfl
    | createSurface => exact absurd hkind hlife.1
    | updateComponents => exact absurd hkind hd
    | deleteSurface => exact absurd hkind hlife.2

/-- So does a run of them, which gives it a root if an update of its components is among them. -/
theorem Whole.deliverAll (h : s.Whole id rooted) {ds : List Delivery}
    (hlife : ∀ d ∈ ds, ¬ d.Says .createSurface id ∧ ¬ d.Says .deleteSurface id)
    (hclean : ∀ d ∈ ds, d.Says .updateComponents id → d.Clean) :
    (s.deliverAll ds).1.Whole id (rooted ∨ ∃ d ∈ ds, d.Says .updateComponents id) := by
  induction ds generalizing s rooted with
  | nil => exact h.mono fun hrooted => hrooted.resolve_right (by simp)
  | cons d ds ih =>
    obtain ⟨hlifeFirst, hlifeRest⟩ := List.forall_mem_cons.mp hlife
    obtain ⟨hcleanFirst, hcleanRest⟩ := List.forall_mem_cons.mp hclean
    refine (ih (h.deliver hlifeFirst hcleanFirst) hlifeRest hcleanRest).mono fun hrooted => ?_
    simpa only [List.mem_cons, exists_eq_or_imp, or_assoc] using hrooted

end Whole

/-- References stay whole under clean updates.  Begin with a message that creates a surface and is
accepted, by whatever store, and let any messages follow, about this surface or others, of which none
creates or deletes this one.  If every update of its components is without a problem, then each such
update is accepted with nothing to note, and from then on the surface has a root and every child that a
component of it lists is defined. -/
theorem clean_updates_keep_references_whole {s : Store} {id : String} {create : Delivery}
    {ds : List Delivery} (hcreate : create.Says .createSurface id)
    (haccepted : (s.deliver create).2.isAccepted = true)
    (hlife : ∀ d ∈ ds, ¬ d.Says .createSurface id ∧ ¬ d.Says .deleteSurface id)
    (hclean : ∀ d ∈ ds, d.Says .updateComponents id → d.Clean) (i : Nat) (d : Delivery)
    (hi : ds[i]? = some d) (hd : d.Says .updateComponents id) :
    (s.deliverAll (create :: ds)).2[i + 1]? = some (.accepted id []) ∧
      ∀ j, i < j → ∃ x, (s.deliverAll (create :: ds.take j)).1.surface? id = some x ∧
        (Record.get? x.components Component.rootId).isSome = true ∧ x.components.dangling = [] := by
  have hwhole := whole_of_create hcreate haccepted
  -- what holds after each part of the run, and that there is a root once components have come
  have hrun : ∀ j, (s.deliverAll (create :: ds.take j)).1.Whole id
      (False ∨ ∃ d ∈ ds.take j, d.Says .updateComponents id) := fun j =>
    hwhole.deliverAll (fun d hd => hlife d (List.mem_of_mem_take hd))
      fun d hd => hclean d (List.mem_of_mem_take hd)
  constructor
  · have houtcome := ((hrun i).deliver_update hd (hclean d (List.mem_of_getElem? hi) hd)).1
    rw [getElem?_deliverAll, List.getElem?_cons_succ, hi, List.take_succ_cons]
    exact congrArg some houtcome
  · intro j hij
    obtain ⟨-, x, hx, -, hclosed, hroot⟩ := hrun j
    have hmem : d ∈ ds.take j := by
      rw [List.mem_iff_getElem?]
      exact ⟨i, by rw [List.getElem?_take_of_lt hij, hi]⟩
    exact ⟨x, hx, hroot (Or.inr ⟨d, hmem, hd⟩), ComponentTable.dangling_eq_nil_iff.mpr hclosed⟩

/-- A parent is replaced by one with another child, of which the table knows nothing before; the first
child is listed twice, and stays.  Between the updates come another surface, an envelope that does not
decode, and a change of the data model. -/
theorem replaced_parent_keeps_references_whole :
    let row (id : String) (children : List String) : Json := .obj [("id", .str id),
      ("component", .str "Column"), ("children", .obj [("explicitList", .arr (children.map .str))])]
    let update (rows : List Json) : Delivery := .envelope [("updateComponents",
      .obj [("surfaceId", .str "tile"), ("components", .arr rows)])]
    let create : Delivery := .message (.createSurface "tile" .null .null [])
    let ds : List Delivery := [.message (.createSurface "other" .null .null []),
      update [row "root" ["clock", "clock"], row "clock" []], .envelope [("note", .null)],
      .message (.updateDataModel "tile" (.write (some "/x") .null)),
      update [row "root" ["date", "root"], row "date" ["date"]]]
    create.Says .createSurface "tile" ∧
      (((empty false).deliver create).2.isAccepted = true) ∧
      (∀ d ∈ ds, ¬ d.Says .createSurface "tile" ∧ ¬ d.Says .deleteSurface "tile") ∧
      (∀ d ∈ ds, d.Says .updateComponents "tile" → d.Clean) ∧
      ((empty false).deliverAll (create :: ds)).2[5]? = some (.accepted "tile" []) ∧
      ∀ j, 4 < j → ∃ x, ((empty false).deliverAll (create :: ds.take j)).1.surface? "tile" = some x ∧
        (Record.get? x.components Component.rootId).isSome = true ∧ x.components.dangling = [] := by
  intro row update create ds
  have hcreate : create.Says .createSurface "tile" := by decide +kernel
  have haccepted : ((empty false).deliver create).2.isAccepted = true := by decide +kernel
  have hlife : ∀ d ∈ ds, ¬ d.Says .createSurface "tile" ∧ ¬ d.Says .deleteSurface "tile" := by
    decide +kernel
  have hclean : ∀ d ∈ ds, d.Says .updateComponents "tile" → d.Clean := by
    simp only [ds, List.forall_mem_cons]
    exact ⟨fun h => absurd h (by decide +kernel), fun _ => ⟨"", by decide +kernel⟩,
      fun h => absurd h (by decide +kernel), fun h => absurd h (by decide +kernel),
      fun _ => ⟨"", by decide +kernel⟩, fun d hd => absurd hd List.not_mem_nil⟩
  exact ⟨hcreate, haccepted, hlife, hclean,
    clean_updates_keep_references_whole hcreate haccepted hlife hclean 4 _ rfl (by decide +kernel)⟩

end Store

end UiSurface
