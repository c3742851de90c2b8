import UiSurface.Proofs.Replay
import UiSurface.Proofs.Steps

/-!
# Redelivery

A list of messages that is applied twice in a row leaves what it leaves when applied once.  On one
surface a run of messages either comes to the same whatever was there, because one of them creates or
deletes the surface, or it only defines components and changes the data model, and both can be
repeated.

Main lemmas: `Surface.replayable_run` (what a run of messages does to one surface can be repeated),
`surface?_applyAll_twice` (messages), `redelivery_harmless` (envelopes).
-/

namespace UiSurface

/-! ## Overlays in messages -/

/-- The overlay of the message, if it has one, holds no name twice. -/
def Message.WellFormed (m : Message) : Prop :=
  ∀ id entries, m = updateDataModel id (.overlay entries) → (Json.obj entries).WellFormed

/-- The older form has its overlay for a data model. -/
theorem Message.get?_of_decodeUpdate {body entries : Record Json}
    (h : decodeUpdate body = .ok (.overlay entries)) :
    Record.get? body "dataModel" = some (.obj entries) := by
  unfold decodeUpdate at h
  split at h
  · split at h
    · rename_i hentries
      obtain rfl := ModelUpdate.overlay.inj (Except.ok.inj h)
      exact hentries
    · cases h
    · cases h
  · cases h
  · cases h

/-- A message has no other overlay than its envelope. -/
theorem Message.wellFormed_of_decodeMembers {members : Record Json}
    (hmembers : (Json.obj members).WellFormed) {m : Message} (h : decodeMembers members = .ok m) :
    m.WellFormed := by
  rintro id entries rfl
  obtain ⟨-, body, hbody, -, hread⟩ := decodeMembers_eq_ok_iff.mp h
  have hentries := get?_of_decodeUpdate hread
  exact Json.wellFormed_of_get? (Json.wellFormed_of_get? hmembers hbody) hentries

/-! ## One surface -/

namespace Surface

/-- Changes of the surface under an id that can be repeated: what stands there is fixed, or a surface
that stands there gets components and another data model. -/
inductive Replayable : (Option Surface → Option Surface) → Prop
  | fixed (x : Option Surface) : Replayable fun _ => x
  | updated (cs : List Component) (f : DataModel → DataModel) (hf : DataModel.Replayable f) :
      Replayable fun x => x.map fun s =>
        { s with components := s.components.upsertAll cs, model := f s.model }

theorem Replayable.comp {f g : Option Surface → Option Surface} (hf : Replayable f)
    (hg : Replayable g) : Replayable fun x => g (f x) := by
  cases hg with
  | fixed x => exact fixed x
  | updated cs g hg =>
    cases hf with
    | fixed x => exact fixed _
    | updated first f hf =>
      have hboth := updated (first ++ cs) _ (hf.comp hg)
      simp only [ComponentTable.upsertAll_append] at hboth
      simp only [Option.map_map]
      exact hboth

/-- What is replayable may be done twice. -/
theorem Replayable.idem {f : Option Surface → Option Surface} (hf : Replayable f)
    (x : Option Surface) : f (f x) = f x := by
  cases hf with
  | fixed y => rfl
  | updated cs g hg =>
    cases x with
    | none => rfl
    | some s => simp only [Option.map_some, ComponentTable.upsertAll_upsertAll, hg.idem]

/-- What an update does to a data model can be repeated, and whether it is refused does not depend on
the model. -/
theorem replayable_updatedModel (acceptsOverlay : Bool) (update : ModelUpdate)
    (h : ∀ entries, update = .overlay entries → (Json.obj entries).WellFormed) :
    DataModel.Replayable fun model =>
      match Store.updatedModel acceptsOverlay model update with
      | .ok next => next
      | .error _ => model := by
  cases update with
  | overlay entries =>
    cases acceptsOverlay with
    | false => exact DataModel.replayable_id
    | true => exact DataModel.replayable_overlay (h entries rfl)
  | write path value =>
    simp only [Store.updatedModel]
    -- the root is replaced, a path is written, or the update is refused
    by_cases hroot : (path.isNone || path == some "/") = true
    · simp only [hroot, if_true]
      cases value with
      | obj members => exact DataModel.replayable_const members
      | null | bool | num | str | arr => exact DataModel.replayable_id
    · simp only [hroot]
      by_cases hkeys : (Path.segments (path.getD "")).isEmpty
      · simp only [hkeys, if_true]
        exact DataModel.replayable_id
      · simp only [hkeys]
        exact DataModel.replayable_set _ value

/-- What a message makes of its surface may be replayed. -/
theorem replayable_onSurface (acceptsOverlay : Bool) {m : Message} (hm : m.WellFormed) :
    Replayable (m.onSurface acceptsOverlay) := by
  cases m with
  | createSurface id catalogId sendDataModel tokens =>
    exact Replayable.fixed (some (Surface.create id catalogId sendDataModel tokens))
  | updateComponents id cs => exact Replayable.updated cs _ DataModel.replayable_id
  | updateDataModel id update =>
    have hmodel := replayable_updatedModel acceptsOverlay update
      fun entries h => hm id entries (by rw [h])
    have hupdated := Replayable.updated [] _ hmodel
    -- the update leaves the components, so it is an update of both
    have honSurface : (Message.updateDataModel id update).onSurface acceptsOverlay = fun x =>
        x.map fun s => { s with
          components := s.components.upsertAll []
          model := match Store.updatedModel acceptsOverlay s.model update with
            | .ok next => next
            | .error _ => s.model } := by
      funext x
      cases x with
      | none => rfl
      | some s =>
        simp only [Message.onSurface, Option.map_some]
        cases Store.updatedModel acceptsOverlay s.model update with
        | error reason => rfl
        | ok model => rfl
    rw [honSurface]
    exact hupdated
  | deleteSurface id => exact Replayable.fixed none

/-- What a run of messages does to one surface can be repeated. -/
theorem replayable_run (acceptsOverlay : Bool) {ms : List Message}
    (hms : ∀ m ∈ ms, m.WellFormed) :
    Replayable fun x => ms.foldl (fun x m => m.onSurface acceptsOverlay x) x := by
  induction ms with
  | nil =>
    have hkeep := Replayable.updated [] _ DataModel.replayable_id
    have hid : (fun x : Option Surface => x) = fun x => x.map fun s =>
        { s with components := s.components.upsertAll [], model := s.model } := by
      funext x
      cases x <;> rfl
    show Replayable fun x => x
    rw [hid]
    exact hkeep
  | cons m ms ih =>
    have hfirst := replayable_onSurface acceptsOverlay (hms m List.mem_cons_self)
    exact hfirst.comp (ih fun m' hm' => hms m' (List.mem_cons_of_mem _ hm'))

end Surface

/-! ## Stores -/

namespace Store

theorem mem_ids_iff {s : Store} {id : String} : id ∈ s.ids ↔ (s.surface? id).isSome = true := by
  rw [ids, ← Record.has_iff_mem_keys, Record.has, surface?, Option.isSome_map]

/-- Messages applied twice in a row leave every surface as when applied once. -/
theorem surface?_applyAll_twice (s : Store) {ms : List Message} (hms : ∀ m ∈ ms, m.WellFormed)
    (id : String) :
    ((s.applyAll ms).1.applyAll ms).1.surface? id = (s.applyAll ms).1.surface? id := by
  cases hs : s.disposed with
  | true => simp only [applyAll_of_disposed hs]
  | false =>
    obtain ⟨haccepts, hdisposed⟩ := s.sameSettings_applyAll ms
    rw [surface?_applyAll (hdisposed.trans hs), haccepts, surface?_applyAll hs]
    have habout : ∀ m ∈ ms.filter (fun m => m.surface == id), m.WellFormed :=
      fun m hm => hms m (List.mem_filter.mp hm).1
    have hrun := Surface.replayable_run s.acceptsOverlay habout
    exact hrun.idem (s.surface? id)

theorem wellFormed_of_mem_decodable {envelopes : List (Record Json)}
    (h : ∀ e ∈ envelopes, (Json.obj e).WellFormed) : ∀ m ∈ decodable envelopes, m.WellFormed := by
  intro m hm
  obtain ⟨e, he, hdecode⟩ := List.mem_filterMap.mp hm
  exact Message.wellFormed_of_decodeMembers (h e he) (Fallible.toOption_eq_some_iff.mp hdecode)

/-- Redelivery is harmless.  Envelopes that are applied twice in a row, decodable or not, leave the
surfaces that they leave when applied once: the same ids, and under each the same surface with its
tokens, its components in their order and its data model.  Nothing is asked of the store, and of the
envelopes only what is so of every value that is read from a text (`Json.wellFormed_of_ofText`): no
object holds a name twice. -/
theorem redelivery_harmless (s : Store) {envelopes : List (Record Json)}
    (h : ∀ e ∈ envelopes, (Json.obj e).WellFormed) :
    ∃ once twice outcomes again, s.applyValues (envelopes.map .obj) = (once, .ok outcomes) ∧
      once.applyValues (envelopes.map .obj) = (twice, .ok again) ∧
      (∀ id, id ∈ twice.ids ↔ id ∈ once.ids) ∧
      ∀ id, twice.surface? id = once.surface? id := by
  obtain ⟨outcomes, honce⟩ := s.applyValues_objects envelopes
  obtain ⟨again, htwice⟩ := (s.applyAll (decodable envelopes)).1.applyValues_objects envelopes
  have hsame := s.surface?_applyAll_twice (wellFormed_of_mem_decodable h)
  refine ⟨_, _, outcomes, again, honce, htwice, fun id => ?_, hsame⟩
  rw [mem_ids_iff, mem_ids_iff, hsame]

/-- A path that leads through what a later message makes a leaf: the second pass makes it an object
and a leaf again. -/
theorem redelivery_of_overwritten_path :
    let envelopes : List (Record Json) :=
      [[("createSurface", .obj [("surfaceId", .str "tile")])],
        [("updateDataModel", .obj [("surfaceId", .str "tile"), ("path", .str "/a/b"),
          ("value", .ofInt 1)])],
        [("updateDataModel", .obj [("surfaceId", .str "tile"), ("path", .str "/a"),
          ("value", .ofInt 2)])],
        [("note", .null)]]
    (∀ e ∈ envelopes, (Json.obj e).WellFormed) ∧
      ∃ once twice outcomes again,
        (empty false).applyValues (envelopes.map .obj) = (once, .ok outcomes) ∧
        once.applyValues (envelopes.map .obj) = (twice, .ok again) ∧
        (∀ id, id ∈ twice.ids ↔ id ∈ once.ids) ∧
        ∀ id, twice.surface? id = once.surface? id := by
  intro envelopes
  have h : ∀ e ∈ envelopes, (Json.obj e).WellFormed := by
    simp [envelopes, Json.WellFormed, Json.WellFormedMembers, Record.keys, Json.ofInt]
  exact ⟨h, redelivery_harmless (empty false) h⟩

end Store

end UiSurface
