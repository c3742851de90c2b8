import UiSurface.Proofs.Reachable

/-!
# A surface told again

The messages of a surface, applied in order to a new store, are all accepted and leave that surface.
This needs what `Reachable.sound` says: the messages come back from their envelopes because the
components of the surface are sound, and the table comes back from its components because each stands
under its own id, none twice.

The root that a surface is shown from is a setting of its reader and not told, so the new surface has
the usual one.

Main lemmas: `Surface.sound_toMessages`, `applyAll_toMessages` (what the messages leave of a new
store), `reimport_of_reachable`.
-/

namespace UiSurface

/-! ## The messages of a surface -/

/-- Sound messages come back from their envelopes. -/
theorem Message.decodeAll_encode {ms : List Message} (h : ∀ m ∈ ms, m.Sound) :
    decodeAll (ms.map encode) = .ok ms := by
  rw [decodeAll_eq_ok_iff, List.map_map]
  apply List.map_congr_left
  intro m hm
  exact decode_encode (h m hm)

/-- The messages of a sound surface are sound. -/
theorem Surface.sound_toMessages {x : Surface} (hx : x.Sound) : ∀ m ∈ x.toMessages, m.Sound := by
  intro m hm
  -- created, listed, and written unless the model is empty
  rcases List.mem_append.mp hm with hm | hm
  · simp only [List.mem_cons, List.not_mem_nil, or_false] at hm
    rcases hm with rfl | rfl
    · exact ⟨hx.id_ne, nofun⟩
    · refine ⟨hx.id_ne, ?_⟩
      rintro id cs heq c hc
      obtain ⟨-, rfl⟩ := Message.updateComponents.inj heq
      obtain ⟨e, he, rfl⟩ := List.mem_map.mp hc
      exact hx.component e he
  · by_cases hempty : x.model.isEmpty
    · simp [hempty] at hm
    · simp only [hempty, Bool.false_eq_true, if_false, List.mem_singleton] at hm
      subst hm
      exact ⟨hx.id_ne, nofun⟩

namespace Store

/-! ## A new store -/

/-- A new store with one surface and nobody who listens. -/
def holding (acceptsOverlay : Bool) (x : Surface) : Store :=
  { empty acceptsOverlay with live := [(x.id, ⟨0, x, false⟩)], nextHandle := 1 }

theorem apply_create (acceptsOverlay : Bool) (id : String) (catalogId sendDataModel : Json)
    (tokens : TokenTable) :
    (empty acceptsOverlay).apply (.createSurface id catalogId sendDataModel tokens) =
      (holding acceptsOverlay (Surface.create id catalogId sendDataModel tokens),
        .accepted id []) := rfl

/-- The surface of such a store is found. -/
theorem surface?_holding (acceptsOverlay : Bool) (x : Surface) :
    (holding acceptsOverlay x).surface? x.id = some x := by
  simp [surface?, holding, Record.get?]

theorem modify_holding (acceptsOverlay : Bool) {x y : Surface} (h : y.id = x.id) :
    (holding acceptsOverlay x).modify x.id (fun _ => y) = holding acceptsOverlay y := by
  simp [modify, holding, Record.get?, Record.put, h]

/-- Components come to the surface of such a store. -/
theorem apply_components (acceptsOverlay : Bool) (x : Surface) (cs : List Component) :
    ∃ cautions, (holding acceptsOverlay x).apply (.updateComponents x.id cs) =
      (holding acceptsOverlay { x with components := x.components.upsertAll cs },
        .accepted x.id cautions) := by
  have hmodify := modify_holding acceptsOverlay (x := x)
    (y := { x with components := x.components.upsertAll cs }) rfl
  have heffect : (holding acceptsOverlay x).effect (.updateComponents x.id cs) =
      .ok (holding acceptsOverlay { x with components := x.components.upsertAll cs },
        Caution.ofSurface { x with components := x.components.upsertAll cs }) := by
    simp only [effect, surface?_holding]
    rw [hmodify]
  refine ⟨Caution.ofSurface { x with components := x.components.upsertAll cs }, ?_⟩
  simp only [apply, heffect]
  rfl

/-- An object that is written at the root is the data model. -/
theorem apply_root (acceptsOverlay : Bool) (x : Surface) (model : DataModel) :
    (holding acceptsOverlay x).apply (.updateDataModel x.id (.write (some "/") (.obj model))) =
      (holding acceptsOverlay { x with model := model }, .accepted x.id []) := by
  have heffect : (holding acceptsOverlay x).effect
      (.updateDataModel x.id (.write (some "/") (.obj model))) =
        .ok (holding acceptsOverlay { x with model := model }, []) := by
    have hmodify :=
      modify_holding acceptsOverlay (x := x) (y := { x with model := model }) rfl
    have hmodel : updatedModel acceptsOverlay x.model (.write (some "/") (.obj model)) =
        .ok model := rfl
    simp only [effect, surface?_holding]
    rw [show (holding acceptsOverlay x).acceptsOverlay = acceptsOverlay from rfl, hmodel]
    simp only [hmodify]
  simp only [apply, heffect]
  rfl

/-- The messages of a surface are accepted by a new store and leave the surface there. -/
theorem applyAll_toMessages (acceptsOverlay : Bool) {x : Surface} (hx : x.Sound) :
    ∃ outcomes, (empty acceptsOverlay).applyAll x.toMessages =
        (holding acceptsOverlay { x with rootId := Component.rootId }, outcomes) ∧
      ∀ o ∈ outcomes, o.isAccepted = true := by
  have htable : ComponentTable.upsertAll [] (Record.values x.components) = x.components :=
    ComponentTable.upsertAll_values hx.keyed hx.nodup
  have hcreate := apply_create acceptsOverlay x.id x.catalogId x.sendDataModel x.tokens
  obtain ⟨cautions, hcomponents⟩ := apply_components acceptsOverlay
    (Surface.create x.id x.catalogId x.sendDataModel x.tokens) (Record.values x.components)
  have hfill : (holding acceptsOverlay
      (Surface.create x.id x.catalogId x.sendDataModel x.tokens)).apply
        (.updateComponents x.id (Record.values x.components)) =
      (holding acceptsOverlay { x with rootId := Component.rootId, model := [] },
        .accepted x.id cautions) := by
    simp only [Surface.create, htable] at hcomponents
    exact hcomponents
  by_cases hempty : x.model.isEmpty
  -- a new surface has an empty model already
  · have hsame : ({ x with rootId := Component.rootId, model := [] } : Surface) =
        { x with rootId := Component.rootId } := by
      have hmodel : x.model = [] := List.isEmpty_iff.mp hempty
      simp [hmodel]
    rw [hsame] at hfill
    refine ⟨[.accepted x.id [], .accepted x.id cautions], ?_, by simp [Outcome.isAccepted]⟩
    simp [Surface.toMessages, hempty, applyAll, hcreate, hfill]
  · have hmodel : (holding acceptsOverlay { x with rootId := Component.rootId, model := [] }).apply
        (.updateDataModel x.id (.write (some "/") (.obj x.model))) =
          (holding acceptsOverlay { x with rootId := Component.rootId }, .accepted x.id []) :=
      apply_root acceptsOverlay { x with rootId := Component.rootId, model := [] } x.model
    refine ⟨[.accepted x.id [], .accepted x.id cautions, .accepted x.id []], ?_,
      by simp [Outcome.isAccepted]⟩
    simp [Surface.toMessages, hempty, applyAll, hcreate, hfill, hmodel]

/-- Exporting a surface of a reachable store and importing it in a new store gives the surface back,
the root apart: every message is accepted, and there is no other surface.  The surface may be under a
stale handle as well. -/
theorem reimport_of_reachable {s : Store} (hs : s.Reachable) {h : Handle} (hh : h ∈ s.handles)
    (acceptsOverlay : Bool) :
    ∃ t outcomes, (empty acceptsOverlay).applyValues (h.surface.toMessages.map Message.encode) =
        (t, .ok outcomes) ∧
      outcomes.length = h.surface.toMessages.length ∧
      (∀ o ∈ outcomes, o.isAccepted = true) ∧
      t.ids = [h.surface.id] ∧
      t.surface? h.surface.id = some { h.surface with rootId := Component.rootId } := by
  have hx : h.surface.Sound := hs.sound h.surface (List.mem_map_of_mem hh)
  obtain ⟨outcomes, happly, haccepted⟩ := applyAll_toMessages acceptsOverlay hx
  have hlength := length_applyAll (empty acceptsOverlay) h.surface.toMessages
  have hdecode := Message.decodeAll_encode (Surface.sound_toMessages hx)
  rw [happly] at hlength
  refine ⟨holding acceptsOverlay { h.surface with rootId := Component.rootId }, outcomes, ?_,
    hlength, haccepted, rfl, surface?_holding _ _⟩
  rw [applyValues_of_decodeAll _ hdecode, happly]

/-- A text bound to the data model, given in three messages, comes back. -/
theorem reimport_hello :
    let hello : Component :=
      ⟨"root", "Text", none, some "${/text}", none, none, none, none, [("icon", .null)]⟩
    let tile : Surface :=
      ⟨"tile", "root", [("root", hello)], [("text", .str "Hello!")], [], .null, .bool false⟩
    let s := (((empty true).perform (.envelope
        [("createSurface", .obj [("surfaceId", .str "tile"), ("sendDataModel", .bool false)])])).perform
      (.envelope [("updateComponents", .obj [("surfaceId", .str "tile"), ("components", .arr [.obj
        [("id", .str "root"), ("component", .str "Text"), ("text", .str "${/text}"),
          ("icon", .null)]])])])).perform
      (.envelope [("updateDataModel", .obj [("surfaceId", .str "tile"), ("path", .str "/text"),
        ("value", .str "Hello!")])])
    ⟨0, tile, false⟩ ∈ s.handles ∧
      ∃ t outcomes, (empty false).applyValues (tile.toMessages.map Message.encode) =
          (t, .ok outcomes) ∧
        outcomes.length = tile.toMessages.length ∧
        (∀ o ∈ outcomes, o.isAccepted = true) ∧
        t.ids = ["tile"] ∧ t.surface? "tile" = some tile := by
  intro hello tile s
  have hs : s.Reachable := (((Reachable.empty true).perform _).perform _).perform _
  have hh : (⟨0, tile, false⟩ : Handle) ∈ s.handles := by decide +kernel
  exact ⟨hh, reimport_of_reachable hs hh false⟩

end Store

end UiSurface
