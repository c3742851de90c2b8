import UiSurface.Proofs.Handles
import UiSurface.Proofs.Reachable

/-!
# What a surface retains

A reader keeps the handle of a surface, and things are done to the store.  The components under the
handle change by one kind of message only: an update of the surface that lists components, and of those
it replaces the ones that it lists.  Any other message leaves the table as it is; where it ends the
surface, the handle goes stale with the table it had.

A reader who shows a surface from another root writes through a handle, and leaves the components alone.

Main lemmas: `Reachable.tidy`, `handle_perform` (what an operation can do to the components under a
handle), `exists_retained_performAll` (a component stays until it is replaced).
-/

namespace UiSurface

namespace ComponentTable

/-- What is not defined anew is what it was. -/
theorem get?_upsertAll_of_not_mem (table : ComponentTable) {cs : List Component} {id : String}
    (h : ∀ c ∈ cs, c.id ≠ id) : Record.get? (upsertAll table cs) id = Record.get? table id := by
  induction cs generalizing table with
  | nil => rfl
  | cons c cs ih =>
    obtain ⟨hc, hcs⟩ := List.forall_mem_cons.mp h
    have hrest : upsertAll table (c :: cs) = upsertAll (upsert table c) cs := rfl
    rw [hrest, ih _ hcs, get?_upsert, if_neg hc]

/-- Of several definitions of an id the last is found. -/
theorem get?_upsertAll_append_cons (table : ComponentTable) (before : List Component) (c : Component)
    {after : List Component} (h : ∀ d ∈ after, d.id ≠ c.id) :
    Record.get? (upsertAll table (before ++ c :: after)) c.id = some c := by
  have hrest : upsertAll table (before ++ c :: after) =
      upsertAll (upsert (upsertAll table before) c) after := upsertAll_append table before (c :: after)
  rw [hrest, get?_upsertAll_of_not_mem _ h, get?_upsert, if_pos rfl]

end ComponentTable

/-- Whether a message is an update of a surface that lists a component of an id. -/
def Message.lists (surface id : String) : Message → Bool
  | .updateComponents other cs => other == surface && cs.any fun c => c.id == id
  | .createSurface .. | .updateDataModel .. | .deleteSurface _ => false

/-- Whether a message is the end of what is under the id of a surface. -/
def Message.ends (surface : String) (m : Message) : Bool :=
  m.surface == surface && (m.kind == .createSurface || m.kind == .deleteSurface)

namespace Store

/-- The message of an operation, if it is one. -/
def Operation.message? : Operation → Option Message
  | .envelope members => (Message.decodeMembers members).toOption
  | .subscribe _ | .cancel _ | .dispose | .setRoot .. => none

/-- Whether an operation replaces a component of a surface. -/
def Operation.replaces (surface id : String) (op : Operation) : Bool :=
  op.message?.any (Message.lists surface id)

/-- Whether an operation may be the end of a surface. -/
def Operation.ends (surface : String) : Operation → Bool
  | .dispose => true
  | op => op.message?.any (Message.ends surface)

def performAll (s : Store) (ops : List Operation) : Store := ops.foldl perform s

variable {s t : Store}

/-! ## Tidy stores -/

/-- To show a surface from another root leaves the handles in order. -/
theorem tidy_setRoot (hs : Tidy s) (number : Nat) (root : String) : Tidy (s.setRoot number root) := by
  -- a root is no part of what makes a store tidy
  refine ⟨?_, ?_, ?_, ?_, ?_⟩
  · intro e he
    obtain ⟨e', he', rfl⟩ := List.mem_map.mp he
    have hkeyed := hs.keyed e' he'
    dsimp only
    split <;> exact hkeyed
  · intro e he
    obtain ⟨e', he', rfl⟩ := List.mem_map.mp he
    have hfresh := hs.fresh e' he'
    dsimp only
    split <;> exact hfresh
  · have hkeys : Record.keys (s.setRoot number root).live = Record.keys s.live := by
      simp [setRoot, Record.mapValues, Record.keys]
    rw [hkeys]
    exact hs.nodup
  · intro x hx
    obtain ⟨y, hy, rfl⟩ := List.mem_map.mp hx
    have hstale := hs.stale y hy
    dsimp only
    split <;> exact hstale
  · have hnumbers : (s.setRoot number root).handles.map Handle.number =
        s.handles.map Handle.number := by
      simp only [handles, setRoot, Record.values, Record.mapValues, List.map_append, List.map_map]
      congr 1 <;>
      · refine List.map_congr_left fun x _ => ?_
        simp only [Function.comp_apply]
        split <;> rfl
    rw [hnumbers]
    exact hs.numbered

theorem tidy_perform (hs : Tidy s) (op : Operation) : Tidy (s.perform op) := by
  cases op with
  | envelope members => exact tidy_step hs (.deliver (.envelope members))
  | subscribe l => exact tidy_step hs (.subscribe l)
  | cancel l => exact tidy_step hs (.cancel l)
  | dispose => exact tidy_step hs .dispose
  | setRoot number root => exact tidy_setRoot hs number root

/-- The handles of a reachable store are in order. -/
theorem Reachable.tidy (hs : s.Reachable) : Tidy s := by
  induction hs with
  | empty acceptsOverlay => exact tidy_empty acceptsOverlay
  | perform op _ ih => exact tidy_perform ih op

/-- Operations lead to stores that can be reached. -/
theorem Reachable.performAll (hs : s.Reachable) (ops : List Operation) :
    (s.performAll ops).Reachable := by
  induction ops generalizing s with
  | nil => exact hs
  | cons op ops ih => exact ih (hs.perform op)

/-! ## One operation -/

/-- A message that is accepted leaves every handle as it is but the live one of its surface. -/
theorem mem_handles_of_changed (hs : Tidy s) {id : String} (h : Changed s t id) {x : Handle}
    (hx : x ∈ s.handles) : x ∈ t.handles ∨ Record.get? s.live id = some x := by
  rcases List.mem_append.mp hx with hlive | hretired
  · obtain ⟨⟨key, x⟩, he, rfl⟩ := List.mem_map.mp hlive
    have hget := Record.get?_of_mem hs.nodup he
    by_cases hkey : key = id
    · subst hkey
      exact Or.inr hget
    · rw [← h.get?_live_of_ne hkey] at hget
      exact Or.inl (mem_handles_of_mem_live (Record.mem_of_get?_eq_some hget))
  · exact Or.inl (List.mem_append_right _ (retired_subset_of_changed h hretired))

/-- What may become of a handle: another of the same number, for a surface of the same id, with the same
components or with those that are listed, and stale only if it was or if the surface is at its end. -/
structure Goes (x y : Handle) (m? : Option Message) (ended : Bool) : Prop where
  number : y.number = x.number
  surface : y.surface.id = x.surface.id
  components : y.surface.components = x.surface.components ∨
    ∃ cs, m? = some (.updateComponents x.surface.id cs) ∧
      y.surface.components = x.surface.components.upsertAll cs
  stale : y.stale = x.stale ∨ ended = true

theorem Goes.refl (x : Handle) (m? : Option Message) (ended : Bool) : Goes x x m? ended :=
  ⟨rfl, rfl, Or.inl rfl, Or.inl rfl⟩

theorem Goes.retired (x : Handle) (m? : Option Message) : Goes x { x with stale := true } m? true :=
  ⟨rfl, rfl, Or.inl rfl, Or.inr rfl⟩

/-- What is done to the live surface of an id is there under the same handle. -/
theorem mem_handles_modify {id : String} {x : Handle} (hx : Record.get? s.live id = some x)
    (f : Surface → Surface) : { x with surface := f x.surface } ∈ (s.modify id f).handles := by
  have hlive : (s.modify id f).live = Record.put s.live id { x with surface := f x.surface } := by
    simp [modify, hx]
  have hmem := Record.mem_of_get?_eq_some
    (Record.get?_put_self s.live id { x with surface := f x.surface })
  rw [← hlive] at hmem
  exact mem_handles_of_mem_live hmem

/-- A message is the end of a handle, or a change of what is under it. -/
theorem handle_effect (hs : Tidy s) {m : Message} {cautions : List Caution}
    (h : s.effect m = .ok (t, cautions)) {x : Handle} (hx : x ∈ s.handles) :
    ∃ y ∈ t.handles, Goes x y (some m) (m.ends x.surface.id) := by
  rcases mem_handles_of_changed hs (changed_effect h) hx with hsame | hlive
  · exact ⟨x, hsame, .refl x _ _⟩
  -- otherwise it is the handle of the surface that the message is for
  have hid : x.surface.id = m.surface := hs.keyed _ (Record.mem_of_get?_eq_some hlive)
  have hsurface : s.surface? m.surface = some x.surface := by rw [surface?, hlive]; rfl
  -- created anew or deleted it is retired, else it goes on with the changed surface
  cases m with
  | createSurface id catalogId sendDataModel tokens =>
    simp only [effect, Except.ok.injEq, Prod.mk.injEq] at h
    obtain ⟨rfl, -⟩ := h
    have hends : (Message.createSurface id catalogId sendDataModel tokens).ends x.surface.id =
        true := by simp [Message.ends, hid, Message.kind]
    rw [hends]
    refine ⟨_, List.mem_append_right _ ?_, .retired x _⟩
    have hold : Record.get? s.live (Surface.create id catalogId sendDataModel tokens).id = some x :=
      hlive
    simp [place, hold, retire]
  | updateComponents id cs =>
    simp only [effect, show s.surface? id = some x.surface from hsurface, Except.ok.injEq,
      Prod.mk.injEq] at h
    obtain ⟨rfl, -⟩ := h
    exact ⟨_, mem_handles_modify hlive _, rfl, rfl, Or.inr ⟨cs, by rw [hid]; rfl, rfl⟩, Or.inl rfl⟩
  | updateDataModel id update =>
    simp only [effect, show s.surface? id = some x.surface from hsurface] at h
    split at h
    · cases h
    · simp only [Except.ok.injEq, Prod.mk.injEq] at h
      obtain ⟨rfl, -⟩ := h
      exact ⟨_, mem_handles_modify hlive _, rfl, rfl, Or.inl rfl, Or.inl rfl⟩
  | deleteSurface id =>
    simp only [effect, show s.surface? id = some x.surface from hsurface, Except.ok.injEq,
      Prod.mk.injEq] at h
    obtain ⟨rfl, -⟩ := h
    have hends : (Message.deleteSurface id).ends x.surface.id = true := by
      simp [Message.ends, hid, Message.kind]
    rw [hends]
    refine ⟨_, List.mem_append_right _ ?_, .retired x _⟩
    have hold : Record.get? s.live id = some x := hlive
    simp [remove, hold, retire]

/-- What an operation can do to a handle. -/
theorem handle_perform (hs : Tidy s) (op : Operation) {x : Handle} (hx : x ∈ s.handles) :
    ∃ y ∈ (s.perform op).handles, Goes x y op.message? (op.ends x.surface.id) := by
  -- only disposing and a message end a handle
  cases op with
  | subscribe l => exact ⟨x, hx, .refl x _ _⟩
  | cancel l => exact ⟨x, hx, .refl x _ _⟩
  | dispose => exact ⟨_, List.mem_append_right _ (retired_dispose_of_mem hs hx), .retired x _⟩
  | setRoot number root =>
    refine ⟨if x.number == number then { x with surface := { x.surface with rootId := root } } else x,
      ?_, ?_⟩
    · simp only [perform, setRoot, handles, Record.values, Record.mapValues, List.map_map,
        List.mem_append, List.mem_map, Function.comp_apply] at hx ⊢
      rcases hx with ⟨e, he, rfl⟩ | hretired
      · exact Or.inl ⟨e, he, rfl⟩
      · exact Or.inr ⟨x, hretired, rfl⟩
    · split
      · exact ⟨rfl, rfl, Or.inl rfl, Or.inl rfl⟩
      · exact .refl x _ _
  | envelope members =>
    cases hdecode : Message.decodeMembers members with
    | error fault =>
      have hsame : s.perform (.envelope members) = s := s.applyMembers_of_fault hdecode
      rw [hsame]
      exact ⟨x, hx, .refl x _ _⟩
    | ok m =>
      have hmessage : (Operation.envelope members).message? = some m := by
        simp [Operation.message?, hdecode, Except.toOption]
      have hends : (Operation.envelope members).ends x.surface.id = m.ends x.surface.id := by
        simp [Operation.ends, hmessage]
      rw [hmessage, hends, perform, applyMembers_of_decode s hdecode]
      rcases s.apply_cases m with ⟨about, reason, hrefused⟩ | ⟨t, cautions, -, heffect, haccepted⟩
      · rw [hrefused]
        exact ⟨x, hx, .refl x _ _⟩
      · rw [haccepted]
        obtain ⟨y, hy, hgoes⟩ := handle_effect hs heffect hx
        exact ⟨y, by simpa [handles] using hy, hgoes⟩

/-! ## Runs -/

/-- A component stays under a handle until it is replaced, and the handle stays live until its surface is
at its end. -/
theorem exists_retained_performAll (hs : Tidy s) {x : Handle} (hx : x ∈ s.handles) {c : Component}
    (hc : Record.get? x.surface.components c.id = some c) {ops : List Operation}
    (hops : ∀ op ∈ ops, op.replaces x.surface.id c.id = false) :
    ∃ y ∈ (s.performAll ops).handles, y.number = x.number ∧ y.surface.id = x.surface.id ∧
      Record.get? y.surface.components c.id = some c ∧
      ((∀ op ∈ ops, op.ends x.surface.id = false) → y.stale = x.stale) := by
  induction ops generalizing s x with
  | nil => exact ⟨x, hx, rfl, rfl, hc, fun _ => rfl⟩
  | cons op ops ih =>
    obtain ⟨hop, hrest⟩ := List.forall_mem_cons.mp hops
    obtain ⟨y, hy, hgoes⟩ := handle_perform hs op hx
    have hkept : Record.get? y.surface.components c.id = some c := by
      -- the operation leaves the components, or lists some, and this one is not among them
      rcases hgoes.components with hsame | ⟨cs, hm, hcs⟩
      · rw [hsame, hc]
      · have hnot : ∀ d ∈ cs, d.id ≠ c.id := by
          simpa [Operation.replaces, hm, Message.lists] using hop
        rw [hcs, ComponentTable.get?_upsertAll_of_not_mem _ hnot, hc]
    obtain ⟨z, hz, hnumber, hid, hfound, hlive⟩ :=
      ih (tidy_perform hs op) hy hkept (by rw [hgoes.surface]; exact hrest)
    refine ⟨z, hz, hnumber.trans hgoes.number, hid.trans hgoes.surface, hfound, fun hends => ?_⟩
    obtain ⟨hopEnds, hrestEnds⟩ := List.forall_mem_cons.mp hends
    rcases hgoes.stale with hstale | hended
    · rw [hlive (by rw [hgoes.surface]; exact hrestEnds), hstale]
    · rw [hopEnds] at hended
      cases hended

end Store

end UiSurface
