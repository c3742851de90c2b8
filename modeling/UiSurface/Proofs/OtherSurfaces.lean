import UiSurface.Proofs.Independence
import UiSurface.Proofs.Pushing

/-!
# What a design does to the surfaces of others

Whatever surface a design creates is its own, for so it was saved.  Its other messages may be about any
surface.  In the empty store of the gate there is no other, and such a message is refused and
forgotten; on a device it is applied, and may change or delete what others have put there
(`intruder`).  So a design spares the surfaces that it has no message about, and the
others it cannot replace.

Main lemmas: `Store.get?_live_applyAll_of_ne` (no message, no change),
`Store.exists_get?_live_of_applyAll` (without a create message, what is there was there before),
`Design.spares_surfaces_without_a_message`.
-/

namespace UiSurface

namespace Store

/-- A message about another surface leaves a handle as it is. -/
theorem get?_live_apply_of_ne (s : Store) {m : Message} {id : String} (h : m.surface ≠ id) :
    Record.get? (s.apply m).1.live id = Record.get? s.live id := by
  rcases s.apply_cases m with ⟨about, reason, happly⟩ | ⟨t, cautions, -, heffect, happly⟩
  · rw [happly]
  · rw [happly]
    exact ((changed_effect heffect).notify _ _).get?_live_of_ne (Ne.symm h)

/-- Messages about other surfaces leave a surface under its handle, with the content that it had. -/
theorem get?_live_applyAll_of_ne (s : Store) {ms : List Message} {id : String}
    (h : ∀ m ∈ ms, m.surface ≠ id) :
    Record.get? (s.applyAll ms).1.live id = Record.get? s.live id := by
  induction ms generalizing s with
  | nil => rfl
  | cons m ms ih =>
    obtain ⟨hm, hrest⟩ := List.forall_mem_cons.mp h
    calc Record.get? ((s.apply m).1.applyAll ms).1.live id
        = Record.get? (s.apply m).1.live id := ih _ hrest
      _ = Record.get? s.live id := s.get?_live_apply_of_ne hm

/-- A message that creates no surface of the id leaves under it the handle that was there, if any. -/
theorem exists_get?_live_of_apply {s : Store} {m : Message} {id : String}
    (h : m.kind = .createSurface → m.surface ≠ id) {x : Handle}
    (hx : Record.get? (s.apply m).1.live id = some x) :
    ∃ y, Record.get? s.live id = some y ∧ x.number = y.number := by
  by_cases hid : m.surface = id
  · subst hid
    rcases s.apply_cases m with ⟨about, reason, happly⟩ | ⟨t, cautions, -, heffect, happly⟩
    · rw [happly] at hx
      exact ⟨x, hx, rfl⟩
    · obtain ⟨listeners, calls, hnotify⟩ := t.notify_eq m.kind m.surface
      rw [happly, hnotify] at hx
      rcases effect_cases heffect with ⟨surface, -, -, hon⟩ | ⟨surface, updated, -, rfl, -⟩ | ⟨rfl, -⟩
      · -- only a create message makes a surface of none
        cases m with
        | createSurface => exact absurd rfl (h rfl)
        | updateComponents | updateDataModel | deleteSurface => cases hon none
      · simp only [modify] at hx
        split at hx
        · rename_i y hy
          simp only [Record.get?_put, if_true] at hx
          obtain rfl := Option.some.inj hx
          exact ⟨y, hy, rfl⟩
        · exact ⟨x, hx, rfl⟩
      · simp only [remove] at hx
        split at hx
        · simp at hx
        · exact ⟨x, hx, rfl⟩
  · rw [s.get?_live_apply_of_ne hid] at hx
    exact ⟨x, hx, rfl⟩

/-- A run that creates no surface of the id leaves under it the handle that was there, if any. -/
theorem exists_get?_live_of_applyAll {s : Store} {ms : List Message} {id : String}
    (h : ∀ m ∈ ms, m.kind = .createSurface → m.surface ≠ id) {x : Handle}
    (hx : Record.get? (s.applyAll ms).1.live id = some x) :
    ∃ y, Record.get? s.live id = some y ∧ x.number = y.number := by
  induction ms generalizing s with
  | nil => exact ⟨x, hx, rfl⟩
  | cons m ms ih =>
    obtain ⟨hm, hrest⟩ := List.forall_mem_cons.mp h
    obtain ⟨y, hy, hxy⟩ := ih hrest hx
    obtain ⟨z, hz, hyz⟩ := exists_get?_live_of_apply hm hy
    exact ⟨z, hz, hxy.trans hyz⟩

end Store

namespace Design

/-- A device that takes a design spares every surface that no message of the design is about: it is under
the handle that it was under, with the content that it had.  And whatever other surface is there
afterwards was there before, under the same handle.  This holds of every store. -/
theorem spares_surfaces_without_a_message {acceptsOverlay : Bool} {d : Design}
    (h : d.Accepted acceptsOverlay) (s : Store) :
    (∀ id, (∀ members ∈ d.messages, (Store.Delivery.envelope members).about? ≠ some id) →
      Record.get? (s.applyLive d.batch).1.live id = Record.get? s.live id) ∧
    ∀ id x, id ≠ d.id → Record.get? (s.applyLive d.batch).1.live id = some x →
      ∃ y, Record.get? s.live id = some y ∧ x.number = y.number := by
  obtain ⟨hsound, -⟩ := h.exists_fold
  have hincremental := Validation.hasStructural_incremental (hasStructural_of_eq_nil hsound)
  obtain ⟨vs, ms, hvs, hms, hlive⟩ := s.applyLive_eq_of_sound hincremental
  obtain rfl := Json.arr.inj hvs
  rw [hlive]
  refine ⟨fun id hnone => s.get?_live_applyAll_of_ne fun m hm hid => ?_, fun id x hid hx => ?_⟩
  · obtain ⟨v, hv, hdecode⟩ := (Message.mem_of_decodeAll hms).mp hm
    obtain ⟨members, hmembers, rfl⟩ := List.mem_map.mp hv
    have hmessage : Message.decodeMembers members = .ok m := hdecode
    refine hnone members hmembers ?_
    simp [Store.Delivery.about?, Store.Delivery.message?, hmessage, Except.toOption, hid]
  · exact Store.exists_get?_live_of_applyAll
      (fun m hm hkind => h.surface_of_create hms hm hkind ▸ Ne.symm hid) hx

/-- A design that makes a tile and deletes another surface. -/
def intruder : Design := ⟨"tile",
  [[("createSurface", .obj [("surfaceId", .str "tile")])],
   [("updateComponents", .obj [("surfaceId", .str "tile"),
      ("components", .arr [.obj [("id", .str "root"), ("component", .str "Text")]])])],
   [("deleteSurface", .obj [("surfaceId", .str "other")])]]⟩

/-- The gate lets it pass. -/
theorem accepted_intruder : intruder.Accepted false := by
  refine ⟨none, saveProblems_eq_nil_iff.mpr ⟨by decide +kernel, ?_⟩, by decide +kernel⟩
  exact gateProblems_eq_nil_iff.mpr ⟨0, "tile", [], _, by decide +kernel, by decide +kernel,
    by decide +kernel, rfl, rfl, by decide +kernel⟩

/-- A third surface is spared, and stays under its handle. -/
theorem intruder_spares_a_third_surface :
    let s := ((Store.empty false).applyAll
      [.createSurface "other" .null .null [], .createSurface "third" .null .null []]).1
    intruder.Accepted false ∧
      (∀ members ∈ intruder.messages,
        (Store.Delivery.envelope members).about? ≠ some "third") ∧
      Record.get? (s.applyLive intruder.batch).1.live "third" = Record.get? s.live "third" ∧
      "third" ≠ intruder.id ∧ ∃ x, Record.get? (s.applyLive intruder.batch).1.live "third" = some x ∧
        ∃ y, Record.get? s.live "third" = some y ∧ x.number = y.number := by
  intro s
  have hnone : ∀ members ∈ intruder.messages,
      (Store.Delivery.envelope members).about? ≠ some "third" := by decide +kernel
  have hother : "third" ≠ intruder.id := by decide +kernel
  obtain ⟨hspared, hkept⟩ := spares_surfaces_without_a_message accepted_intruder s
  have hthere : Record.get? s.live "third" =
      some ⟨1, Surface.create "third" .null .null [], false⟩ := by decide +kernel
  have hafter := (hspared "third" hnone).trans hthere
  exact ⟨accepted_intruder, hnone, hspared "third" hnone, hother, _, hafter,
    hkept "third" _ hother hafter⟩

/-- The other surface is deleted. -/
theorem intruder_deletes_another_surface :
    let s := ((Store.empty false).apply (.createSurface "other" .null .null [])).1
    intruder.Accepted false ∧ "other" ≠ intruder.id ∧
      s.surface? "other" = some (Surface.create "other" .null .null []) ∧
      (s.applyLive intruder.batch).1.surface? "other" = none :=
  ⟨accepted_intruder, by decide +kernel, by decide +kernel, by decide +kernel⟩

end Design

end UiSurface
