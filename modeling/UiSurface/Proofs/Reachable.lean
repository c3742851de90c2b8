import UiSurface.Proofs.Encoding
import UiSurface.Proofs.Steps

/-!
# Reachable stores

What can be done to a store from outside is an `Operation`; a store is reachable if it comes from a
new one by operations.  A sound message that is given as such, and not in its envelope, leads to
reachable stores as well (`Reachable.apply`).

Every surface of a reachable store is sound, live or stale: it has a name, and its components are
sound and stand under their own ids, none twice.

Main lemmas: `forall_surfaces_perform` (what an operation keeps on all surfaces), `Message.Sound.keeps` (a
sound message keeps a surface sound), `sound_perform`, `Reachable.sound`.
-/

namespace UiSurface

/-- A surface that messages can make. -/
structure Surface.Sound (s : Surface) : Prop where
  id_ne : s.id ≠ ""
  keyed : ∀ e ∈ s.components, e.1 = e.2.id
  nodup : (Record.keys s.components).Nodup
  component : ∀ e ∈ s.components, e.2.Sound

/-- A message keeps a property of surfaces: the surface that it leaves has it, if the one that it found
had it or if there was none. -/
def Message.Keeps (m : Message) (P : Surface → Prop) : Prop :=
  ∀ ⦃acceptsOverlay : Bool⦄ ⦃x : Option Surface⦄, (∀ y, x = some y → P y) →
    ∀ ⦃t : Surface⦄, m.onSurface acceptsOverlay x = some t → P t

/-- A sound message makes a sound surface of a sound one. -/
theorem Message.Sound.keeps {m : Message} (hm : m.Sound) : m.Keeps Surface.Sound := by
  intro acceptsOverlay x hx t ht
  -- a component of the table was listed by this message or by an earlier one
  cases m with
  | createSurface id catalogId sendDataModel tokens =>
    obtain rfl := Option.some.inj ht
    exact ⟨hm.surface_ne, by simp [Surface.create], List.nodup_nil, by simp [Surface.create]⟩
  | updateComponents id cs =>
    obtain ⟨s, hs, rfl⟩ := Option.map_eq_some_iff.mp ht
    have hsound := hx s hs
    refine ⟨hsound.id_ne, ComponentTable.keyed_upsertAll hsound.keyed cs, ?_, ?_⟩
    · show (Record.keys (s.components.upsertAll cs)).Nodup
      rw [ComponentTable.upsertAll_eq_putAll]
      exact Record.nodup_keys_putAll _ hsound.nodup
    · intro e he
      rcases ComponentTable.mem_upsertAll he with ⟨c, hc, rfl⟩ | he
      · exact hm.component id cs rfl c hc
      · exact hsound.component e he
  | updateDataModel id update =>
    obtain ⟨s, hs, rfl⟩ := Option.map_eq_some_iff.mp ht
    have hsound := hx s hs
    split
    · exact ⟨hsound.id_ne, hsound.keyed, hsound.nodup, hsound.component⟩
    · exact hsound
  | deleteSurface id => cases ht

namespace Store

/-! ## Operations -/

/-- What can be done to a store from outside. -/
inductive Operation where
  | envelope (members : Record Json)
  | subscribe (l : Listener)
  | cancel (l : Listener)
  | dispose
  | setRoot (number : Nat) (root : String)

def perform (s : Store) : Operation → Store
  | .envelope members => (s.applyMembers members).1
  | .subscribe l => s.subscribe l
  | .cancel l => s.cancel l
  | .dispose => s.dispose
  | .setRoot number root => s.setRoot number root

/-- The stores that operations make of a new one. -/
inductive Reachable : Store → Prop
  | empty (acceptsOverlay : Bool) : Reachable (empty acceptsOverlay)
  | perform {s : Store} (op : Operation) (h : Reachable s) : Reachable (s.perform op)

/-! ## Surfaces of a store -/

/-- The surfaces under all handles, live and stale. -/
def surfaces (s : Store) : List Surface := s.handles.map Handle.surface

/-- A surface of a store is live, or it is stale. -/
theorem mem_surfaces_iff {s : Store} {x : Surface} :
    x ∈ s.surfaces ↔ (∃ e ∈ s.live, e.2.surface = x) ∨ ∃ h ∈ s.retired, h.surface = x := by
  simp only [surfaces, handles, Record.values, List.map_append, List.map_map, List.mem_append,
    List.mem_map, Function.comp]

/-- A surface that is found is a surface of the store. -/
theorem mem_surfaces_of_surface? {s : Store} {id : String} {x : Surface}
    (h : s.surface? id = some x) : x ∈ s.surfaces := by
  obtain ⟨handle, hget, rfl⟩ := Option.map_eq_some_iff.mp h
  exact mem_surfaces_iff.mpr (Or.inl ⟨_, Record.mem_of_get?_eq_some hget, rfl⟩)

/-- Telling the listeners makes no surface. -/
theorem mem_surfaces_notify {s : Store} {kind : MessageKind} {id : String} {x : Surface} :
    x ∈ (s.notify kind id).surfaces ↔ x ∈ s.surfaces := by
  simp [mem_surfaces_iff]

/-- A handle that goes stale keeps its surface. -/
theorem mem_surfaces_retire {s : Store} {h : Handle} {x : Surface} :
    x ∈ (s.retire h).surfaces ↔ x = h.surface ∨ x ∈ s.surfaces := by
  rw [mem_surfaces_iff, mem_surfaces_iff]
  constructor
  · rintro (hlive | ⟨old, hold, rfl⟩)
    · exact Or.inr (Or.inl hlive)
    · rcases List.mem_cons.mp hold with rfl | hold
      · exact Or.inl rfl
      · exact Or.inr (Or.inr ⟨old, hold, rfl⟩)
  · rintro (rfl | hlive | ⟨old, hold, rfl⟩)
    · exact Or.inr ⟨_, List.mem_cons_self, rfl⟩
    · exact Or.inl hlive
    · exact Or.inr ⟨old, List.mem_cons_of_mem _ hold, rfl⟩

/-- Placing a surface makes no other. -/
theorem mem_surfaces_place {s : Store} {surface x : Surface} (h : x ∈ (s.place surface).surfaces) :
    x = surface ∨ x ∈ s.surfaces := by
  -- the surface that is replaced stays, with the handle that is retired
  have hretired : ∀ old ∈ (s.place surface).retired, old.surface ∈ s.surfaces := by
    intro old hold
    simp only [place] at hold
    split at hold
    · rename_i replaced hlive
      have hreplaced : s.surface? surface.id = some replaced.surface := by simp [surface?, hlive]
      rcases List.mem_cons.mp hold with rfl | hold
      · exact mem_surfaces_of_surface? hreplaced
      · exact mem_surfaces_iff.mpr (Or.inr ⟨old, hold, rfl⟩)
    · exact mem_surfaces_iff.mpr (Or.inr ⟨old, hold, rfl⟩)
  rcases mem_surfaces_iff.mp h with ⟨e, he, rfl⟩ | ⟨old, hold, rfl⟩
  · rcases Record.mem_put he with rfl | he
    · exact Or.inl rfl
    · exact Or.inr (mem_surfaces_iff.mpr (Or.inl ⟨e, he, rfl⟩))
  · exact Or.inr (hretired old hold)

/-- A change of a surface makes no other. -/
theorem mem_surfaces_modify {s : Store} {id : String} {f : Surface → Surface} {x : Surface}
    (h : x ∈ (s.modify id f).surfaces) :
    (∃ y, s.surface? id = some y ∧ x = f y) ∨ x ∈ s.surfaces := by
  unfold modify at h
  split at h
  · rename_i handle hlive
    rcases mem_surfaces_iff.mp h with ⟨e, he, rfl⟩ | hretired
    · rcases Record.mem_put he with rfl | he
      · exact Or.inl ⟨handle.surface, by simp [surface?, hlive], rfl⟩
      · exact Or.inr (mem_surfaces_iff.mpr (Or.inl ⟨e, he, rfl⟩))
    · exact Or.inr (mem_surfaces_iff.mpr (Or.inr hretired))
  · exact Or.inr h

/-- Taking a surface away makes none. -/
theorem mem_surfaces_remove {s : Store} {id : String} {x : Surface}
    (h : x ∈ (s.remove id).surfaces) : x ∈ s.surfaces := by
  unfold remove at h
  split at h
  · rename_i handle hlive
    have hremoved : s.surface? id = some handle.surface := by simp [surface?, hlive]
    rcases mem_surfaces_iff.mp h with ⟨e, he, rfl⟩ | hretired
    · exact mem_surfaces_iff.mpr (Or.inl ⟨e, (List.mem_filter.mp he).1, rfl⟩)
    · rcases mem_surfaces_retire.mp (mem_surfaces_iff.mpr (Or.inr hretired)) with rfl | hold
      · exact mem_surfaces_of_surface? hremoved
      · exact hold
  · exact h

theorem mem_surfaces_dispose {s : Store} {x : Surface} (h : x ∈ s.dispose.surfaces) :
    x ∈ s.surfaces := by
  rcases mem_surfaces_iff.mp h with ⟨e, he, -⟩ | ⟨old, hold, rfl⟩
  · cases he
  · rcases mem_retired_dispose.mp hold with ⟨e, he, rfl⟩ | hold
    · exact mem_surfaces_iff.mpr (Or.inl ⟨e, he, rfl⟩)
    · exact mem_surfaces_iff.mpr (Or.inr ⟨old, hold, rfl⟩)

/-- To show a surface from another root changes nothing else of it. -/
theorem mem_surfaces_setRoot {s : Store} {number : Nat} {root : String} {x : Surface}
    (h : x ∈ (s.setRoot number root).surfaces) :
    ∃ y ∈ s.surfaces, x = y ∨ x = { y with rootId := root } := by
  rcases mem_surfaces_iff.mp h with ⟨e, he, rfl⟩ | ⟨old, hold, rfl⟩
  · obtain ⟨e', he', rfl⟩ := List.mem_map.mp he
    refine ⟨e'.2.surface, mem_surfaces_iff.mpr (Or.inl ⟨e', he', rfl⟩), ?_⟩
    dsimp only
    split
    · exact Or.inr rfl
    · exact Or.inl rfl
  · obtain ⟨old', hold', rfl⟩ := List.mem_map.mp hold
    refine ⟨old'.surface, mem_surfaces_iff.mpr (Or.inr ⟨old', hold', rfl⟩), ?_⟩
    dsimp only
    split
    · exact Or.inr rfl
    · exact Or.inl rfl

/-! ## What messages and operations keep -/

/-- A message that keeps a property of a single surface keeps it for all surfaces of a store. -/
theorem forall_surfaces_apply {P : Surface → Prop} {s : Store} (hs : ∀ x ∈ s.surfaces, P x)
    {m : Message} (hm : m.Keeps P) : ∀ x ∈ (s.apply m).1.surfaces, P x := by
  intro x hx
  unfold apply at hx
  split at hx
  · exact hs x hx
  · split at hx
    · exact hs x hx
    · rename_i t cautions heffect
      have hx := mem_surfaces_notify.mp hx
      -- a surface was made by this message, or changed by it, or was there before
      rcases effect_cases heffect with ⟨surface, -, rfl, hon⟩ | ⟨surface, updated, hsurface, rfl, hon⟩ |
        ⟨rfl, -⟩
      · rcases mem_surfaces_place hx with rfl | hx
        · exact hm (x := none) nofun (hon none)
        · exact hs x hx
      · rcases mem_surfaces_modify hx with ⟨_, -, rfl⟩ | hx
        · refine hm ?_ hon
          rintro _ ⟨⟩
          exact hs surface (mem_surfaces_of_surface? hsurface)
        · exact hs x hx
      · exact hs x (mem_surfaces_remove hx)

/-- An operation keeps what all surfaces have, if the message of an envelope keeps it, and if it does
not matter from which root a surface is shown. -/
theorem forall_surfaces_perform {P : Surface → Prop} {s : Store} (hs : ∀ x ∈ s.surfaces, P x)
    {op : Operation} (hop : ∀ members m, op = .envelope members →
      Message.decodeMembers members = .ok m → m.Keeps P)
    (hroot : ∀ x root, P x → P { x with rootId := root }) : ∀ x ∈ (s.perform op).surfaces, P x := by
  -- only an envelope makes or changes a surface, but for the root that is set
  cases op with
  | envelope members =>
    cases h : Message.decodeMembers members with
    | error fault =>
      have hstep : (s.applyMembers members).1 = s := s.applyMembers_of_fault h
      rw [perform, hstep]
      exact hs
    | ok m =>
      rw [perform, applyMembers_of_decode s h]
      exact forall_surfaces_apply hs (hop members m rfl h)
  | subscribe l => exact hs
  | cancel l => exact hs
  | dispose => exact fun x hx => hs x (mem_surfaces_dispose hx)
  | setRoot number root =>
    intro x hx
    obtain ⟨y, hy, rfl | rfl⟩ := mem_surfaces_setRoot hx
    · exact hs x hy
    · exact hroot y root (hs y hy)

/-- An operation keeps all surfaces sound. -/
theorem sound_perform {s : Store} (hs : ∀ x ∈ s.surfaces, x.Sound) (op : Operation) :
    ∀ x ∈ (s.perform op).surfaces, x.Sound := by
  refine forall_surfaces_perform hs (fun members m _ h => ?_) fun x root hx => ?_
  · exact (Message.sound_of_decodeMembers h).keeps
  · exact ⟨hx.id_ne, hx.keyed, hx.nodup, hx.component⟩

/-- A sound message given as such leads to a reachable store too: it could have come in its
envelope. -/
theorem Reachable.apply {s : Store} (hs : s.Reachable) {m : Message} (hm : m.Sound) :
    (s.apply m).1.Reachable := by
  have hdecode : Message.decodeMembers [(m.kind.name, .obj m.encodeBody)] = .ok m :=
    Message.decode_encode hm
  have hnext := hs.perform (.envelope [(m.kind.name, .obj m.encodeBody)])
  rw [Store.perform, applyMembers_of_decode s hdecode] at hnext
  exact hnext

/-- Every surface of a reachable store is sound, live or stale. -/
theorem Reachable.sound {s : Store} (h : s.Reachable) : ∀ x ∈ s.surfaces, x.Sound := by
  induction h with
  | empty acceptsOverlay =>
    intro x hx
    cases hx
  | perform op _ ih => exact sound_perform ih op

end Store

end UiSurface
