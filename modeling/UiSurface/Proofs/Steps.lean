import UiSurface.Proofs.Import
import UiSurface.Proofs.Records

/-!
# What one message does to a store

`Message.onSurface` says what a message does to the surface that it is about, and nothing else about
the store plays a part in it.  `effect_cases` says what an applied message does to the store; from it
follows what is left of every surface after one message and after a run of messages.

Main lemmas: `effect_cases`, `surface?_apply` (one message, one surface), `surface?_applyAll` (a run
of messages acts on a surface as those of them that are about it), `surface?_applyAll_of_create` (a run
that creates a surface makes the same of it everywhere), `applyValues_objects` (envelopes act as the
messages that decode among them).
-/

namespace UiSurface

/-- What a message makes of the surface that it is about, if there is one. -/
def Message.onSurface (acceptsOverlay : Bool) : Message → Option Surface → Option Surface
  | .createSurface id catalogId sendDataModel tokens, _ =>
    some (Surface.create id catalogId sendDataModel tokens)
  | .updateComponents _ cs, x =>
    x.map fun s => { s with components := s.components.upsertAll cs }
  | .updateDataModel _ update, x =>
    x.map fun s => match Store.updatedModel acceptsOverlay s.model update with
      | .ok model => { s with model := model }
      | .error _ => s
  | .deleteSurface _, _ => none

/-- Where a surface is created, what was there before plays no part. -/
theorem Message.onSurface_of_create {m : Message} (h : m.kind = .createSurface) (acceptsOverlay : Bool)
    (x y : Option Surface) : m.onSurface acceptsOverlay x = m.onSurface acceptsOverlay y := by
  cases m with
  | createSurface id catalogId sendDataModel tokens => rfl
  | updateComponents | updateDataModel | deleteSurface => cases h

/-- So it is with a run of messages that creates the surface somewhere. -/
theorem Message.foldl_onSurface_of_create {ms : List Message}
    (h : ∃ m ∈ ms, m.kind = .createSurface) (acceptsOverlay : Bool) (x y : Option Surface) :
    ms.foldl (fun z m => m.onSurface acceptsOverlay z) x =
      ms.foldl (fun z m => m.onSurface acceptsOverlay z) y := by
  induction ms generalizing x y with
  | nil => simp at h
  | cons m ms ih =>
    obtain ⟨c, hc, hkind⟩ := h
    rcases List.mem_cons.mp hc with rfl | hms
    · rw [List.foldl_cons, List.foldl_cons, onSurface_of_create hkind acceptsOverlay x y]
    · exact ih ⟨c, hms, hkind⟩ _ _

namespace Store

/-! ## Listeners -/

/-- Calling listeners changes who listens and what was called, and nothing else. -/
theorem notify_eq (s : Store) (kind : MessageKind) (id : String) :
    ∃ listeners calls, s.notify kind id = { s with listeners := listeners, calls := calls } := by
  have hfold : ∀ (ls : List Listener) (t : Store), ∃ listeners calls,
      ls.foldl (call kind id) t = { t with listeners := listeners, calls := calls } := by
    intro ls
    induction ls with
    | nil => exact fun t => ⟨t.listeners, t.calls, rfl⟩
    | cons l ls ih =>
      intro t
      obtain ⟨listeners, calls, hrest⟩ := ih (call kind id t l)
      refine ⟨listeners, calls, ?_⟩
      rw [List.foldl_cons, hrest]
      cases l with
      | mk number name reaction => cases reaction <;> rfl
  exact hfold s.listeners s

@[simp] theorem notify_live (s : Store) (kind : MessageKind) (id : String) :
    (s.notify kind id).live = s.live := by
  obtain ⟨_, _, h⟩ := s.notify_eq kind id
  rw [h]

@[simp] theorem notify_retired (s : Store) (kind : MessageKind) (id : String) :
    (s.notify kind id).retired = s.retired := by
  obtain ⟨_, _, h⟩ := s.notify_eq kind id
  rw [h]

@[simp] theorem surface?_notify (s : Store) (kind : MessageKind) (id other : String) :
    (s.notify kind id).surface? other = s.surface? other := by simp [surface?]

/-! ## Surfaces by id -/

/-- A surface is placed under its own id. -/
theorem surface?_place (s : Store) (surface : Surface) (id : String) :
    (s.place surface).surface? id = if surface.id = id then some surface else s.surface? id := by
  have hlive : (s.place surface).live =
      Record.put s.live surface.id ⟨s.nextHandle, surface, false⟩ := rfl
  rw [surface?, hlive, Record.get?_put]
  by_cases hid : surface.id = id
  · simp [hid]
  · simp [hid, surface?]

/-- A change of one surface leaves the others. -/
theorem surface?_modify (s : Store) (id : String) (f : Surface → Surface) (other : String) :
    (s.modify id f).surface? other =
      if id = other then (s.surface? other).map f else s.surface? other := by
  unfold modify
  split
  · rename_i h hlive
    by_cases ho : id = other
    · subst ho
      simp [surface?, hlive]
    · simp [surface?, Record.get?_put, ho]
  · rename_i hlive
    by_cases ho : id = other
    · subst ho
      simp [surface?, hlive]
    · simp [ho]

theorem surface?_remove (s : Store) (id other : String) :
    (s.remove id).surface? other = if id = other then none else s.surface? other := by
  unfold remove
  split
  · by_cases ho : id = other
    · subst ho
      simp [surface?]
    · simp [surface?, Record.get?_erase_of_ne _ (Ne.symm ho), ho]
  · rename_i hlive
    by_cases ho : id = other
    · subst ho
      simp [surface?, hlive]
    · simp [ho]

/-! ## One message -/

/-- What an applied message does: it places a new surface, changes the one it is about, or removes
it. -/
theorem effect_cases {s t : Store} {m : Message} {cautions : List Caution}
    (h : s.effect m = .ok (t, cautions)) :
    (∃ surface, surface.id = m.surface ∧ t = s.place surface ∧
      ∀ x, m.onSurface s.acceptsOverlay x = some surface) ∨
    (∃ surface updated, s.surface? m.surface = some surface ∧
      t = s.modify m.surface (fun _ => updated) ∧
      m.onSurface s.acceptsOverlay (some surface) = some updated) ∨
    (t = s.remove m.surface ∧ ∀ x, m.onSurface s.acceptsOverlay x = none) := by
  -- creating places a surface, an update modifies one, deleting removes one
  cases m with
  | createSurface id catalogId sendDataModel tokens =>
    simp only [effect, Except.ok.injEq, Prod.mk.injEq] at h
    exact Or.inl ⟨_, rfl, h.1.symm, fun _ => rfl⟩
  | updateComponents id cs =>
    simp only [effect] at h
    split at h
    · cases h
    · rename_i surface hsurface
      simp only [Except.ok.injEq, Prod.mk.injEq] at h
      exact Or.inr (Or.inl ⟨surface, _, hsurface, h.1.symm, rfl⟩)
  | updateDataModel id update =>
    simp only [effect] at h
    split at h
    · cases h
    · rename_i surface hsurface
      split at h
      · cases h
      · rename_i model hmodel
        simp only [Except.ok.injEq, Prod.mk.injEq] at h
        exact Or.inr (Or.inl ⟨surface, _, hsurface, h.1.symm, by simp [Message.onSurface, hmodel]⟩)
  | deleteSurface id =>
    simp only [effect] at h
    split at h
    · cases h
    · simp only [Except.ok.injEq, Prod.mk.injEq] at h
      exact Or.inr (Or.inr ⟨h.1.symm, fun _ => rfl⟩)

/-- A refused message would have left its surface as it is. -/
theorem onSurface_of_effect_eq_error {s : Store} {m : Message} {reason : Refusal}
    (h : s.effect m = .error reason) :
    m.onSurface s.acceptsOverlay (s.surface? m.surface) = s.surface? m.surface := by
  cases m with
  | createSurface id catalogId sendDataModel tokens => cases h
  | updateComponents id cs =>
    simp only [effect] at h
    split at h
    · rename_i hsurface
      simp only [Message.surface, hsurface, Message.onSurface, Option.map_none]
    · cases h
  | updateDataModel id update =>
    simp only [effect] at h
    split at h
    · rename_i hsurface
      simp only [Message.surface, hsurface, Message.onSurface, Option.map_none]
    · rename_i surface hsurface
      split at h
      · rename_i hmodel
        simp only [Message.surface, hsurface, Message.onSurface, Option.map_some, hmodel]
      · cases h
  | deleteSurface id =>
    simp only [effect] at h
    split at h
    · rename_i hsurface
      simp only [Message.surface, hsurface, Message.onSurface]
    · cases h

/-- After a message the surface it is about is what the message makes of it, and every other surface
is what it was. -/
theorem surface?_apply {s : Store} (hs : s.disposed = false) (m : Message) (id : String) :
    (s.apply m).1.surface? id =
      if m.surface = id then m.onSurface s.acceptsOverlay (s.surface? id) else s.surface? id := by
  simp only [apply, hs, Bool.false_eq_true, if_false]
  cases h : s.effect m with
  | error reason =>
    by_cases hid : m.surface = id
    · subst hid
      simp [onSurface_of_effect_eq_error h]
    · simp [hid]
  | ok r =>
    obtain ⟨t, cautions⟩ := r
    simp only [surface?_notify]
    -- one case for each way a message writes the table of surfaces
    rcases effect_cases h with ⟨surface, hsurface, rfl, hon⟩ | ⟨surface, updated, hsurface, rfl, hon⟩ |
      ⟨rfl, hon⟩
    · rw [surface?_place, hsurface, hon]
    · rw [surface?_modify]
      by_cases hid : m.surface = id
      · subst hid
        simp [hsurface, hon]
      · simp [hid]
    · rw [surface?_remove, hon]

/-! ## The end of a store -/

/-- To dispose of a store is to make the live handles stale and to keep none. -/
theorem dispose_eq (s : Store) :
    s.dispose = { s with
      live := []
      retired := ((Record.values s.live).map fun h => { h with stale := true }).reverse ++ s.retired
      listeners := []
      disposed := true } := by
  have hfold : ∀ (hs : List Handle) (u : Store), hs.foldl retire u =
      { u with retired := (hs.map fun h => { h with stale := true }).reverse ++ u.retired } := by
    intro hs
    induction hs with
    | nil => exact fun u => rfl
    | cons h hs ih =>
      intro u
      rw [List.foldl_cons, ih]
      simp [retire]
  rw [dispose, hfold]

/-- To dispose of a store is to retire its handles. -/
theorem mem_retired_dispose {s : Store} {h : Handle} :
    h ∈ s.dispose.retired ↔
      (∃ e ∈ s.live, h = { e.2 with stale := true }) ∨ h ∈ s.retired := by
  rw [dispose_eq]
  simp only [List.mem_append, List.mem_reverse, List.mem_map, Record.values]
  constructor
  · rintro (⟨_, ⟨e, he, rfl⟩, rfl⟩ | hh)
    · exact Or.inl ⟨e, he, rfl⟩
    · exact Or.inr hh
  · rintro (⟨e, he, rfl⟩ | hh)
    · exact Or.inl ⟨e.2, ⟨e, he, rfl⟩, rfl⟩
    · exact Or.inr hh

/-! ## Settings -/

/-- Two stores that accept the same form of updates, both disposed of or neither. -/
def SameSettings (s t : Store) : Prop :=
  t.acceptsOverlay = s.acceptsOverlay ∧ t.disposed = s.disposed

theorem SameSettings.trans {s t u : Store} (hst : SameSettings s t) (htu : SameSettings t u) :
    SameSettings s u :=
  ⟨htu.1.trans hst.1, htu.2.trans hst.2⟩

theorem sameSettings_notify (s : Store) (kind : MessageKind) (id : String) :
    SameSettings s (s.notify kind id) := by
  obtain ⟨_, _, h⟩ := s.notify_eq kind id
  rw [h]
  exact ⟨rfl, rfl⟩

theorem sameSettings_place (s : Store) (surface : Surface) : SameSettings s (s.place surface) := by
  unfold place
  split <;> exact ⟨rfl, rfl⟩

theorem sameSettings_modify (s : Store) (id : String) (f : Surface → Surface) :
    SameSettings s (s.modify id f) := by
  unfold modify
  split <;> exact ⟨rfl, rfl⟩

theorem sameSettings_remove (s : Store) (id : String) : SameSettings s (s.remove id) := by
  unfold remove
  split <;> exact ⟨rfl, rfl⟩

/-- What a message makes of a store is set up as the store was. -/
theorem sameSettings_effect {s t : Store} {m : Message} {cautions : List Caution}
    (h : s.effect m = .ok (t, cautions)) : SameSettings s t := by
  rcases effect_cases h with ⟨surface, -, rfl, -⟩ | ⟨_, updated, -, rfl, -⟩ | ⟨rfl, -⟩
  · exact sameSettings_place s surface
  · exact sameSettings_modify s _ _
  · exact sameSettings_remove s _

/-- A message does not change the settings. -/
theorem sameSettings_apply (s : Store) (m : Message) : SameSettings s (s.apply m).1 := by
  unfold apply
  split
  · exact ⟨rfl, rfl⟩
  · split
    · exact ⟨rfl, rfl⟩
    · rename_i t cautions h
      exact (sameSettings_effect h).trans (sameSettings_notify t _ _)

/-! ## Runs -/

/-- A store that is disposed of takes no message. -/
theorem apply_of_disposed {s : Store} (hs : s.disposed = true) (m : Message) :
    s.apply m = (s, .refused none .disposed) := by
  simp [apply, hs]

/-- A store that is disposed of stays as it is. -/
theorem applyAll_of_disposed {s : Store} (hs : s.disposed = true) (ms : List Message) :
    (s.applyAll ms).1 = s := by
  induction ms with
  | nil => rfl
  | cons m ms ih => rw [applyAll, apply_of_disposed hs]; exact ih

theorem sameSettings_applyAll (s : Store) (ms : List Message) :
    SameSettings s (s.applyAll ms).1 := by
  induction ms generalizing s with
  | nil => exact ⟨rfl, rfl⟩
  | cons m ms ih => exact (s.sameSettings_apply m).trans (ih _)

/-- A run of messages makes of a surface what those of them make of it that are about it. -/
theorem surface?_applyAll {s : Store} (hs : s.disposed = false) (ms : List Message) (id : String) :
    (s.applyAll ms).1.surface? id =
      (ms.filter (fun m => m.surface == id)).foldl (fun x m => m.onSurface s.acceptsOverlay x)
        (s.surface? id) := by
  induction ms generalizing s with
  | nil => rfl
  | cons m ms ih =>
    obtain ⟨haccepts, hdisposed⟩ := s.sameSettings_apply m
    have hrest := ih (hdisposed.trans hs)
    rw [haccepts] at hrest
    show ((s.apply m).1.applyAll ms).1.surface? id = _
    rw [hrest, surface?_apply hs, List.filter_cons]
    by_cases hid : m.surface = id
    · simp [hid]
    · simp [hid]

/-- Two stores make the same of a surface that a run of messages creates, whatever they had before. -/
theorem surface?_applyAll_of_create {s t : Store} (hs : s.disposed = false) (ht : t.disposed = false)
    (haccepts : t.acceptsOverlay = s.acceptsOverlay) {ms : List Message} {id : String}
    (h : ∃ m ∈ ms, m.kind = .createSurface ∧ m.surface = id) :
    (t.applyAll ms).1.surface? id = (s.applyAll ms).1.surface? id := by
  obtain ⟨m, hm, hkind, hid⟩ := h
  have hfiltered : m ∈ ms.filter (fun m => m.surface == id) :=
    List.mem_filter.mpr ⟨hm, by simpa using hid⟩
  rw [surface?_applyAll hs, surface?_applyAll ht, haccepts]
  exact Message.foldl_onSurface_of_create ⟨m, hfiltered, hkind⟩ _ _ _

/-- What does not decode leaves the store as it is. -/
theorem applyMembers_of_fault (s : Store) {members : Record Json} {fault : Message.Fault}
    (h : Message.decodeMembers members = .error fault) : (s.applyMembers members).1 = s := by
  unfold applyMembers
  split
  · rfl
  · simp [h]

/-- The messages that decode among envelopes. -/
def decodable (envelopes : List (Record Json)) : List Message :=
  envelopes.filterMap fun e => (Message.decodeMembers e).toOption

/-- Envelopes act on a store as the messages that decode among them, each with an outcome. -/
theorem applyValues_objects (s : Store) (envelopes : List (Record Json)) :
    ∃ outcomes, s.applyValues (envelopes.map .obj) =
      ((s.applyAll (decodable envelopes)).1, .ok outcomes) := by
  induction envelopes generalizing s with
  | nil => exact ⟨[], rfl⟩
  | cons e es ih =>
    obtain ⟨outcomes, hrest⟩ := ih (s.applyMembers e).1
    refine ⟨(s.applyMembers e).2 :: outcomes, ?_⟩
    have hstep : s.applyValues ((e :: es).map .obj) =
        (((s.applyMembers e).1.applyAll (decodable es)).1,
          .ok ((s.applyMembers e).2 :: outcomes)) := by
      simp only [List.map_cons, applyValues, applyValue, hrest, Except.map]
    rw [hstep]
    -- an envelope that does not decode leaves the store as it is
    cases h : Message.decodeMembers e with
    | error fault =>
      have hdecodable : decodable (e :: es) = decodable es := by
        simp [decodable, h, Except.toOption]
      rw [hdecodable, s.applyMembers_of_fault h]
    | ok m =>
      have hdecodable : decodable (e :: es) = m :: decodable es := by
        simp [decodable, h, Except.toOption]
      rw [hdecodable, applyMembers_of_decode s h]
      rfl

end Store

end UiSurface
