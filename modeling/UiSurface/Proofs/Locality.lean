import UiSurface.Proofs.Steps

/-!
# One surface at a time

A message comes decoded or in its envelope.  One that is refused leaves the store as it was, who
listens and what was called included.  One that is accepted does one of four things to the surface
that it is about: that surface is created, replaced, updated or removed.  No other surface is touched.

`Changed` says in full what each of the four does to the handles, live and stale, so that what holds of
all runs follows from it by cases.

Main lemmas: `changed_effect` (one of the four), `changed_deliver`, `Changed.erase_live` (the other
surfaces), `deliver_atomic_and_local`.
-/

namespace UiSurface.Store

/-- What happens to the surface of an id when a message about it is accepted. -/
inductive Changed (s t : Store) (id : String) : Prop where
  /-- there was none, and a new one is under a new handle -/
  | created (surface : Surface) (hid : surface.id = id) (hbefore : Record.get? s.live id = none)
      (hlive : t.live = Record.put s.live id ⟨s.nextHandle, surface, false⟩)
      (hretired : t.retired = s.retired) (hnext : t.nextHandle = s.nextHandle + 1)
  /-- a new one is under a new handle, and the handle of the old one goes stale -/
  | replaced (surface : Surface) (old : Handle) (hid : surface.id = id)
      (hbefore : Record.get? s.live id = some old)
      (hlive : t.live = Record.put s.live id ⟨s.nextHandle, surface, false⟩)
      (hretired : t.retired = { old with stale := true } :: s.retired)
      (hnext : t.nextHandle = s.nextHandle + 1)
  /-- the handle stays, and its surface has other components or another data model -/
  | updated (h : Handle) (components : ComponentTable) (model : DataModel)
      (hbefore : Record.get? s.live id = some h)
      (hlive : t.live = Record.put s.live id
        { h with surface := { h.surface with components := components, model := model } })
      (hretired : t.retired = s.retired) (hnext : t.nextHandle = s.nextHandle)
  /-- there is none any more, and the handle of the old one goes stale -/
  | removed (old : Handle) (hbefore : Record.get? s.live id = some old)
      (hlive : t.live = Record.erase s.live id)
      (hretired : t.retired = { old with stale := true } :: s.retired)
      (hnext : t.nextHandle = s.nextHandle)

/-! ## What an effect does -/

/-- Placing a surface changes what is under its id. -/
theorem changed_place (s : Store) (surface : Surface) :
    Changed s (s.place surface) surface.id := by
  cases hold : Record.get? s.live surface.id with
  | none =>
    refine .created surface rfl hold rfl ?_ rfl
    simp [place, hold]
  | some old =>
    refine .replaced surface old rfl hold rfl ?_ rfl
    simp [place, hold, retire]

theorem changed_modify {s : Store} {id : String} {surface : Surface}
    (h : s.surface? id = some surface) (components : ComponentTable) (model : DataModel) :
    Changed s (s.modify id fun _ => { surface with components := components, model := model })
      id := by
  obtain ⟨handle, hget, rfl⟩ := Option.map_eq_some_iff.mp h
  refine .updated handle components model hget ?_ ?_ ?_
  · simp [modify, hget]
  · simp [modify, hget]
  · simp [modify, hget]

theorem changed_remove {s : Store} {id : String} {surface : Surface}
    (h : s.surface? id = some surface) : Changed s (s.remove id) id := by
  obtain ⟨handle, hget, rfl⟩ := Option.map_eq_some_iff.mp h
  refine .removed handle hget ?_ ?_ ?_
  · simp [remove, hget]
  · simp [remove, hget, retire]
  · simp [remove, hget, retire]

/-- The effect of a message is one of the four on the surface that the message is about. -/
theorem changed_effect {s t : Store} {m : Message} {cautions : List Caution}
    (h : s.effect m = .ok (t, cautions)) : Changed s t m.surface := by
  -- each kind of message makes its own kind of change
  cases m with
  | createSurface id catalogId sendDataModel tokens =>
    simp only [effect, Except.ok.injEq, Prod.mk.injEq] at h
    obtain ⟨rfl, -⟩ := h
    exact s.changed_place _
  | updateComponents id cs =>
    simp only [effect] at h
    split at h
    · cases h
    · rename_i surface hsurface
      simp only [Except.ok.injEq, Prod.mk.injEq] at h
      obtain ⟨rfl, -⟩ := h
      exact changed_modify hsurface _ surface.model
  | updateDataModel id update =>
    simp only [effect] at h
    split at h
    · cases h
    · rename_i surface hsurface
      split at h
      · cases h
      · rename_i model hmodel
        simp only [Except.ok.injEq, Prod.mk.injEq] at h
        obtain ⟨rfl, -⟩ := h
        exact changed_modify hsurface surface.components model
  | deleteSurface id =>
    simp only [effect] at h
    split at h
    · cases h
    · rename_i surface hsurface
      simp only [Except.ok.injEq, Prod.mk.injEq] at h
      obtain ⟨rfl, -⟩ := h
      exact changed_remove hsurface

/-- To call listeners does nothing to the handles. -/
theorem Changed.notify {s t : Store} {id : String} (h : Changed s t id) (kind : MessageKind)
    (about : String) : Changed s (t.notify kind about) id := by
  obtain ⟨listeners, calls, hnotify⟩ := t.notify_eq kind about
  rw [hnotify]
  cases h with
  | created surface hid hbefore hlive hretired hnext =>
    exact .created surface hid hbefore hlive hretired hnext
  | replaced surface old hid hbefore hlive hretired hnext =>
    exact .replaced surface old hid hbefore hlive hretired hnext
  | updated handle components model hbefore hlive hretired hnext =>
    exact .updated handle components model hbefore hlive hretired hnext
  | removed old hbefore hlive hretired hnext => exact .removed old hbefore hlive hretired hnext

/-- Away from the surface of the id, the live surfaces are under the handles they were under, in the
same order. -/
theorem Changed.erase_live {s t : Store} {id : String} (h : Changed s t id) :
    Record.erase t.live id = Record.erase s.live id := by
  cases h with
  | created surface hid hbefore hlive hretired hnext => rw [hlive, Record.erase_put]
  | replaced surface old hid hbefore hlive hretired hnext => rw [hlive, Record.erase_put]
  | updated handle components model hbefore hlive hretired hnext => rw [hlive, Record.erase_put]
  | removed old hbefore hlive hretired hnext => rw [hlive, Record.erase_erase]

/-- Another id keeps its handle. -/
theorem Changed.get?_live_of_ne {s t : Store} {id : String} (h : Changed s t id) {other : String}
    (hother : other ≠ id) : Record.get? t.live other = Record.get? s.live other := by
  rw [← Record.get?_erase_of_ne t.live hother, h.erase_live, Record.get?_erase_of_ne _ hother]

/-! ## Messages as they come -/

/-- A message as it comes: decoded, or in its envelope. -/
inductive Delivery where
  | message (m : Message)
  | envelope (members : Record Json)

/-- Applies a message as it comes. -/
def deliver (s : Store) : Delivery → Store × Outcome
  | .message m => s.apply m
  | .envelope members => s.applyMembers members

/-- A message is refused and the store stays, or it has its effect and listeners are called. -/
theorem apply_cases (s : Store) (m : Message) :
    (∃ about reason, s.apply m = (s, .refused about reason)) ∨
    ∃ t cautions, s.disposed = false ∧ s.effect m = .ok (t, cautions) ∧
      s.apply m = (t.notify m.kind m.surface, .accepted m.surface cautions) := by
  unfold apply
  cases hs : s.disposed with
  | true => exact Or.inl ⟨none, .disposed, rfl⟩
  | false =>
    cases heffect : s.effect m with
    | error reason => exact Or.inl ⟨some m.surface, reason, rfl⟩
    | ok r => exact Or.inr ⟨r.1, r.2, rfl, rfl, rfl⟩

/-- So it is with a message that comes in its envelope: what does not decode is refused. -/
theorem deliver_cases (s : Store) (d : Delivery) :
    (∃ about reason, s.deliver d = (s, .refused about reason)) ∨
    ∃ m t cautions, s.disposed = false ∧ s.effect m = .ok (t, cautions) ∧
      s.deliver d = (t.notify m.kind m.surface, .accepted m.surface cautions) := by
  -- an envelope is a delivery of the message that it decodes to
  cases d with
  | message m =>
    rcases s.apply_cases m with hrefused | ⟨t, cautions, haccepted⟩
    · exact Or.inl hrefused
    · exact Or.inr ⟨m, t, cautions, haccepted⟩
  | envelope members =>
    cases hdecode : Message.decodeMembers members with
    | ok m =>
      rw [deliver, applyMembers_of_decode s hdecode]
      rcases s.apply_cases m with hrefused | ⟨t, cautions, haccepted⟩
      · exact Or.inl hrefused
      · exact Or.inr ⟨m, t, cautions, haccepted⟩
    | error fault =>
      left
      cases hs : s.disposed with
      | true => exact ⟨none, .disposed, by simp [deliver, applyMembers, hs]⟩
      | false => exact ⟨none, .undecodable fault, by simp [deliver, applyMembers, hs, hdecode]⟩

/-- A message that is refused leaves the store as it is. -/
theorem deliver_of_refused {s : Store} {d : Delivery} (h : (s.deliver d).2.isAccepted = false) :
    (s.deliver d).1 = s := by
  rcases s.deliver_cases d with ⟨about, reason, hd⟩ | ⟨m, t, cautions, -, -, hd⟩
  · rw [hd]
  · rw [hd] at h
    cases h

/-- A message that is accepted changes the surface that its outcome names. -/
theorem changed_deliver {s : Store} {d : Delivery} {id : String} {cautions : List Caution}
    (h : (s.deliver d).2 = .accepted id cautions) : Changed s (s.deliver d).1 id := by
  rcases s.deliver_cases d with ⟨about, reason, hd⟩ | ⟨m, t, noted, -, heffect, hd⟩
  · rw [hd] at h
    cases h
  · rw [hd] at h ⊢
    obtain ⟨rfl, -⟩ := Outcome.accepted.inj h
    exact (changed_effect heffect).notify _ _

theorem sameSettings_deliver (s : Store) (d : Delivery) : SameSettings s (s.deliver d).1 := by
  rcases s.deliver_cases d with ⟨about, reason, hd⟩ | ⟨m, t, cautions, -, heffect, hd⟩
  · rw [hd]
    exact ⟨rfl, rfl⟩
  · rw [hd]
    exact (sameSettings_effect heffect).trans (sameSettings_notify t _ _)

/-- A message is all or nothing, and local.  If it is refused the store is what it was: every surface
under its handle, live or stale, who listens, what was called, and whether the store is disposed of.
If it is accepted then the surface that the outcome names is created, replaced, updated or removed, and
nothing else is: every other surface is under the handle it was under, with the same content, and the
settings stay.  This holds of every store, and of messages that come decoded or in their envelopes. -/
theorem deliver_atomic_and_local (s : Store) (d : Delivery) :
    ((s.deliver d).2.isAccepted = false → (s.deliver d).1 = s) ∧
    ∀ id cautions, (s.deliver d).2 = .accepted id cautions →
      Changed s (s.deliver d).1 id ∧
      Record.erase (s.deliver d).1.live id = Record.erase s.live id ∧
      (∀ other, other ≠ id → Record.get? (s.deliver d).1.live other = Record.get? s.live other) ∧
      SameSettings s (s.deliver d).1 := by
  refine ⟨deliver_of_refused, fun id cautions h => ?_⟩
  have hchanged := changed_deliver h
  have hothers := hchanged.erase_live
  refine ⟨hchanged, hothers, fun other hother => ?_, s.sameSettings_deliver d⟩
  calc Record.get? (s.deliver d).1.live other
      = Record.get? (Record.erase (s.deliver d).1.live id) other :=
        (Record.get?_erase_of_ne _ hother).symm
    _ = Record.get? (Record.erase s.live id) other := by rw [hothers]
    _ = Record.get? s.live other := Record.get?_erase_of_ne _ hother

end UiSurface.Store
