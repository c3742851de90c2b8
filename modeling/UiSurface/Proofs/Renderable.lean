import UiSurface.Proofs.Steps

/-!
# When an imported batch can be shown

Each update of components without a problem defines a root.  Whether the surface that a batch makes has
one is still another matter: validation judges each message by itself, and the store takes them in the
order in which they come.  Components that come before the surface is created find no surface, or one
that is replaced; components for another surface go there.

Main lemmas: `Message.exists_root_of_sound` (an update without a problem defines a root),
`Message.exists_foldl_onSurface` (what a run of updates makes of a surface),
`Store.renderable_iff_components_follow`.
-/

namespace UiSurface

/-- Among components whose references have no problem there is the root. -/
theorem Validation.rootId_mem_of_references {place : String} {items : List Json}
    (h : references place items = []) : Component.rootId ∈ items.filterMap idOf? := by
  have hroots := (List.append_eq_nil_iff.mp h).2
  rw [← List.count_pos_iff]
  refine Nat.pos_of_ne_zero fun hzero => ?_
  rw [if_pos hzero] at hroots
  cases hroots

/-- The id of a component is that of its value. -/
theorem Component.idOf?_of_decode {v : Json} {c : Component} (h : decode v = .ok c) :
    Validation.idOf? v = some c.id := by
  obtain ⟨members, rfl, hmembers⟩ := decode_eq_ok_iff.mp h
  exact (decodeMembers_eq_ok_iff.mp hmembers).1

/-- Every message of a batch without problems is without problems. -/
theorem Validation.exists_message_eq_nil {vs : List Json} (h : complete (.arr vs) = []) {v : Json}
    (hv : v ∈ vs) : ∃ place, message place v = [] := by
  obtain ⟨i, hi⟩ := List.mem_iff_getElem?.mp hv
  refine ⟨Place.message i, List.eq_nil_iff_forall_not_mem.mpr fun p hp => ?_⟩
  have hincremental : p ∈ incremental (.arr vs) := by
    cases vs with
    | nil => cases hv
    | cons w ws =>
      show p ∈ itemwise (fun i e => message (Place.message i) e) (w :: ws)
      exact mem_itemwise.mpr ⟨i, v, hi, hp⟩
  have hcomplete := mem_complete_of_mem_incremental hincremental
  rw [h] at hcomplete
  cases hcomplete

/-- The kinds of the messages of a batch, in order. -/
def Validation.kinds (batch : Json) : List MessageKind :=
  (batch.items?.getD []).filterMap MessageKind.ofEnvelope?

/-! ## Messages -/

namespace Message

/-- The components that a message defines. -/
def components : Message → List Component
  | updateComponents _ cs => cs
  | createSurface .. | updateDataModel .. | deleteSurface .. => []

/-- The kind of a message is that of its envelope. -/
theorem ofEnvelope?_of_decode {v : Json} {m : Message} (h : decode v = .ok m) :
    MessageKind.ofEnvelope? v = some m.kind := by
  obtain ⟨members, rfl, hmembers⟩ := decode_eq_ok_iff.mp h
  simp [MessageKind.ofEnvelope?, (decodeMembers_eq_ok_iff.mp hmembers).1]

/-- A batch has the kinds of its messages. -/
theorem kinds_of_decodeAll {vs : List Json} {ms : List Message} (h : decodeAll vs = .ok ms) :
    Validation.kinds (.arr vs) = ms.map kind :=
  Fallible.filterMap_eq_map ofEnvelope?_of_decode (decodeAll_eq_ok_iff.mp h)

/-- Where its messages split, a batch splits. -/
theorem exists_split_of_decodeAll {vs : List Json} {earlier later : List Message} {m : Message}
    (h : decodeAll vs = .ok (earlier ++ m :: later)) :
    ∃ before v after, vs = before ++ v :: after ∧ decode v = .ok m ∧ decodeAll after = .ok later := by
  rw [decodeAll_eq_ok_iff, List.map_append, List.map_cons] at h
  obtain ⟨before, rest, rfl, -, hrest⟩ := List.map_eq_append_iff.mp h
  obtain ⟨v, after, rfl, hv, hafter⟩ := List.map_eq_cons_iff.mp hrest
  exact ⟨before, v, after, rfl, hv, decodeAll_eq_ok_iff.mpr hafter⟩

theorem kind_of_mem_components {m : Message} {c : Component} (h : c ∈ m.components) :
    m.kind = .updateComponents := by
  cases m with
  | updateComponents id cs => rfl
  | createSurface | updateDataModel | deleteSurface => cases h

/-- The components of an update without a problem have no problem of references. -/
theorem exists_references_of_sound {place : String} {v : Json} {id : String} {cs : List Component}
    (hsound : Validation.message place v = []) (h : decode v = .ok (updateComponents id cs)) :
    ∃ place items, decodeComponents items = .ok cs ∧ Validation.references place items = [] := by
  obtain ⟨members, rfl, hmembers⟩ := decode_eq_ok_iff.mp h
  obtain ⟨body, -, hbody, hproblems⟩ := problems_of_decodeMembers hmembers place
  obtain ⟨-, -, items, hitems, hcs⟩ := decodeBody_eq_ok_iff.mp hbody
  rw [hproblems] at hsound
  have hcomponents := (List.append_eq_nil_iff.mp hsound).2
  simp only [Message.kind, hitems, Validation.components] at hcomponents
  exact ⟨_, items, hcs, (List.append_eq_nil_iff.mp hcomponents).2⟩

/-- An update of components without a problem defines a root. -/
theorem exists_root_of_sound {place : String} {v : Json} {m : Message}
    (hsound : Validation.message place v = []) (h : decode v = .ok m)
    (hkind : m.kind = .updateComponents) : ∃ c ∈ m.components, c.id = Component.rootId := by
  cases m with
  | updateComponents id cs =>
    obtain ⟨place, items, hcs, hreferences⟩ := exists_references_of_sound hsound h
    have hroot := Validation.rootId_mem_of_references hreferences
    rw [Fallible.filterMap_eq_map Component.idOf?_of_decode
      (decodeComponents_eq_ok_iff.mp hcs)] at hroot
    exact List.mem_map.mp hroot
  | createSurface | updateDataModel | deleteSurface => cases hkind

/-- While a surface is neither created nor deleted it stays, and gets the components that come. -/
theorem exists_foldl_onSurface (acceptsOverlay : Bool) {ms : List Message}
    (hms : ∀ m ∈ ms, m.kind ≠ .createSurface ∧ m.kind ≠ .deleteSurface) (s : Surface) :
    ∃ t, ms.foldl (fun x m => m.onSurface acceptsOverlay x) (some s) = some t ∧
      t.components = s.components.upsertAll (ms.flatMap components) := by
  induction ms generalizing s with
  | nil => exact ⟨s, rfl, rfl⟩
  | cons m ms ih =>
    obtain ⟨hm, hrest⟩ := List.forall_mem_cons.mp hms
    -- none of the messages makes the surface anew or deletes it
    have hstep : ∃ u, m.onSurface acceptsOverlay (some s) = some u ∧
        u.components = s.components.upsertAll m.components := by
      cases m with
      | createSurface => exact absurd rfl hm.1
      | updateComponents id cs => exact ⟨_, rfl, rfl⟩
      | updateDataModel id update =>
        refine ⟨_, rfl, ?_⟩
        dsimp only
        split
        · rfl
        · rfl
      | deleteSurface => exact absurd rfl hm.2
    obtain ⟨u, hu, hcomponents⟩ := hstep
    obtain ⟨t, ht, htable⟩ := ih hrest u
    refine ⟨t, by rw [List.foldl_cons, hu, ht], ?_⟩
    rw [htable, hcomponents, List.flatMap_cons, ComponentTable.upsertAll_append]

end Message

/-! ## Batches -/

/-- Where a value comes once among what a list is mapped to, the list splits at its place. -/
theorem exists_split_of_count_eq_one {α β : Type} [DecidableEq β] {f : α → β} {as : List α} {b : β}
    (h : (as.map f).count b = 1) :
    ∃ before a after, as = before ++ a :: after ∧ f a = b ∧ b ∉ before.map f ∧ b ∉ after.map f := by
  have hmem : b ∈ as.map f := List.count_pos_iff.mp (by omega)
  obtain ⟨a, ha, rfl⟩ := List.mem_map.mp hmem
  obtain ⟨before, after, rfl⟩ := List.append_of_mem ha
  simp only [List.map_append, List.map_cons, List.count_append, List.count_cons_self] at h
  refine ⟨before, a, after, rfl, rfl, List.count_eq_zero.mp ?_, List.count_eq_zero.mp ?_⟩
  · omega
  · omega

namespace Store

/-- After a surface is created for the last time it has the components that come for it. -/
theorem exists_surface?_applyAll {s : Store} (hs : s.disposed = false) (earlier : List Message)
    {create : Message} (hcreate : create.kind = .createSurface) {later : List Message}
    (hlater : ∀ m ∈ later, m.kind ≠ .createSurface ∧ m.kind ≠ .deleteSurface) :
    ∃ x, (s.applyAll (earlier ++ create :: later)).1.surface? create.surface = some x ∧
      x.components = ComponentTable.upsertAll []
        ((later.filter (fun m => m.surface == create.surface)).flatMap Message.components) := by
  have hfiltered : ∀ m ∈ later.filter (fun m => m.surface == create.surface),
      m.kind ≠ .createSurface ∧ m.kind ≠ .deleteSurface :=
    fun m hm => hlater m (List.mem_filter.mp hm).1
  cases create with
  | createSurface id catalogId sendDataModel tokens =>
    obtain ⟨x, hx, hcomponents⟩ := Message.exists_foldl_onSurface s.acceptsOverlay hfiltered
      (Surface.create id catalogId sendDataModel tokens)
    refine ⟨x, ?_, hcomponents⟩
    rw [surface?_applyAll hs, List.filter_append, List.filter_cons_of_pos (by simp),
      List.foldl_append, List.foldl_cons]
    exact hx
  | updateComponents | updateDataModel | deleteSurface => cases hcreate

/-- A batch without problems that creates one surface and deletes none leaves that surface, and the
surface has a root exactly if some update of its components comes after it is created. -/
theorem renderable_iff_components_follow (acceptsOverlay : Bool) {batch : Json}
    (hsound : Validation.complete batch = [])
    (hcreate : (Validation.kinds batch).count .createSurface = 1)
    (hdelete : MessageKind.deleteSurface ∉ Validation.kinds batch) :
    ∃ before v after create store imported x,
      batch = .arr (before ++ v :: after) ∧ Message.decode v = .ok create ∧
      create.kind = .createSurface ∧
      (empty acceptsOverlay).importBatch batch = (store, .ok imported) ∧ imported.problems = [] ∧
      store.surface? create.surface = some x ∧
      ((Record.get? x.components Component.rootId).isSome = true ↔
        ∃ w ∈ after, ∃ update, Message.decode w = .ok update ∧ update.kind = .updateComponents ∧
          update.surface = create.surface) := by
  -- the messages split at the one that creates, and the envelopes with them
  obtain ⟨vs, ms, rfl, hms, himport⟩ :=
    (empty acceptsOverlay).importBatch_eq_of_sound (hasStructural_of_eq_nil hsound)
  rw [Message.kinds_of_decodeAll hms] at hcreate hdelete
  obtain ⟨earlier, create, later, rfl, hkind, -, honce⟩ := exists_split_of_count_eq_one hcreate
  obtain ⟨before, v, after, rfl, hv, hafter⟩ := Message.exists_split_of_decodeAll hms
  have hlater : ∀ m ∈ later, m.kind ≠ .createSurface ∧ m.kind ≠ .deleteSurface := by
    intro m hm
    constructor
    · intro hsame
      exact honce (hsame ▸ List.mem_map_of_mem hm)
    · intro hsame
      exact hdelete (hsame ▸ List.mem_map_of_mem (List.mem_append_right _ (List.mem_cons_of_mem _ hm)))
  obtain ⟨x, hx, hcomponents⟩ :=
    exists_surface?_applyAll (s := empty acceptsOverlay) rfl earlier hkind hlater
  refine ⟨before, v, after, create, _, _, x, rfl, hv, hkind, himport, hsound, hx, ?_⟩
  have hroot : (Record.get? x.components Component.rootId).isSome = true ↔
      ∃ m ∈ later, m.surface = create.surface ∧ ∃ c ∈ m.components, c.id = Component.rootId := by
    show Record.has x.components Component.rootId = true ↔ _
    rw [Record.has_iff_mem_keys, hcomponents, ComponentTable.mem_keys_upsertAll]
    simp only [Record.keys, List.map_nil, List.not_mem_nil, false_or, List.mem_flatMap,
      List.mem_filter, beq_iff_eq]
    constructor
    · rintro ⟨c, ⟨m, ⟨hm, hsurface⟩, hc⟩, hid⟩
      exact ⟨m, hm, hsurface, c, hc, hid⟩
    · rintro ⟨m, hm, hsurface, c, hc, hid⟩
      exact ⟨c, ⟨m, ⟨hm, hsurface⟩, hc⟩, hid⟩
  rw [hroot]
  constructor
  · rintro ⟨m, hm, hsurface, c, hc, -⟩
    obtain ⟨w, hw, hdecode⟩ := (Message.mem_of_decodeAll hafter).mp hm
    exact ⟨w, hw, m, hdecode, Message.kind_of_mem_components hc, hsurface⟩
  · rintro ⟨w, hw, m, hdecode, hupdate, hsurface⟩
    have hm : m ∈ later := (Message.mem_of_decodeAll hafter).mpr ⟨w, hw, hdecode⟩
    obtain ⟨place, hproblems⟩ := Validation.exists_message_eq_nil hsound
      (List.mem_append_right before (List.mem_cons_of_mem v hw))
    exact ⟨m, hm, hsurface, Message.exists_root_of_sound hproblems hdecode hupdate⟩

/-- Components that come after the surface is created make it renderable. -/
theorem renderable_of_components_after :
    let create : Json := .obj [("createSurface", .obj [("surfaceId", .str "tile")])]
    let update : Json := .obj [("updateComponents", .obj [("surfaceId", .str "tile"),
      ("components", .arr [.obj [("id", .str "root"), ("component", .str "Text")]])])]
    let batch : Json := .arr [create, update]
    Validation.complete batch = [] ∧ (Validation.kinds batch).count .createSurface = 1 ∧
      MessageKind.deleteSurface ∉ Validation.kinds batch ∧
      ∃ before v after create store imported x,
        batch = .arr (before ++ v :: after) ∧ Message.decode v = .ok create ∧
        create.kind = .createSurface ∧
        (empty false).importBatch batch = (store, .ok imported) ∧ imported.problems = [] ∧
        store.surface? create.surface = some x ∧
        ((Record.get? x.components Component.rootId).isSome = true ↔
          ∃ w ∈ after, ∃ update, Message.decode w = .ok update ∧ update.kind = .updateComponents ∧
            update.surface = create.surface) := by
  intro create update batch
  have hsound : Validation.complete batch = [] := by decide +kernel
  have hcreate : (Validation.kinds batch).count .createSurface = 1 := by decide +kernel
  have hdelete : MessageKind.deleteSurface ∉ Validation.kinds batch := by decide +kernel
  exact ⟨hsound, hcreate, hdelete, renderable_iff_components_follow false hsound hcreate hdelete⟩

/-- A batch without problems, with one message that creates a surface, one that updates its components
and none that deletes it, leaves the surface without a root: the components come first. -/
theorem not_renderable_of_components_first :
    let create : Json := .obj [("createSurface", .obj [("surfaceId", .str "tile")])]
    let update : Json := .obj [("updateComponents", .obj [("surfaceId", .str "tile"),
      ("components", .arr [.obj [("id", .str "root"), ("component", .str "Text")]])])]
    let batch : Json := .arr [update, create]
    Validation.complete batch = [] ∧ (Validation.kinds batch).count .createSurface = 1 ∧
      (Validation.kinds batch).count .updateComponents = 1 ∧
      MessageKind.deleteSurface ∉ Validation.kinds batch ∧
      ∃ store imported x, (empty false).importBatch batch = (store, .ok imported) ∧
        store.surface? "tile" = some x ∧ Record.get? x.components Component.rootId = none := by
  intro create update batch
  refine ⟨by decide +kernel, by decide +kernel, by decide +kernel, by decide +kernel, ?_⟩
  exact ⟨_, _, _, rfl, rfl, rfl⟩

end Store

end UiSurface
