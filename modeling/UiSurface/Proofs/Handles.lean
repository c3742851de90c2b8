import UiSurface.Proofs.Locality
import Mathlib.Data.List.Nodup
import Mathlib.Data.List.Perm.Basic

/-!
# Handles, live and stale

Every surface that was ever created is under a handle, and a reader may keep the handle for good.  In a
store that is tidy the handles are numbered without a gap, those of the live surfaces are not stale and
stand under the ids of their surfaces, and all others are stale.  Whatever is done to a store keeps it
tidy, and what is stale is never written again.

A reader who shows a surface from another root writes through a handle, live or stale; that is no step
here.

Main lemmas: `tidy_of_changed`, `tidy_step`, `tidy_run` (the invariant), `exists_kept_run` (what a store
keeps of a handle), `run_of_disposed`, `live_and_stale_handles`.
-/

namespace UiSurface.Store

/-! ## Steps -/

/-- What is done to a store: a message comes, somebody begins or ceases to listen, or the store is
disposed of. -/
inductive Step where
  | deliver (d : Delivery)
  | subscribe (l : Listener)
  | cancel (l : Listener)
  | dispose

def step (s : Store) : Step → Store
  | .deliver d => (s.deliver d).1
  | .subscribe l => s.subscribe l
  | .cancel l => s.cancel l
  | .dispose => s.dispose

def run (s : Store) (steps : List Step) : Store := steps.foldl step s

/-- A step leaves the handles as they are, is an accepted message, or disposes of the store. -/
theorem step_cases (s : Store) (a : Step) :
    ((s.step a).live = s.live ∧ (s.step a).retired = s.retired ∧
      (s.step a).nextHandle = s.nextHandle ∧ (s.step a).disposed = s.disposed) ∨
    (s.disposed = false ∧ ∃ id, Changed s (s.step a) id) ∨ s.step a = s.dispose := by
  cases a with
  | deliver d =>
    cases hd : (s.deliver d).2 with
    | refused about reason =>
      have hkeep : s.step (.deliver d) = s := deliver_of_refused (by rw [hd]; rfl)
      left
      rw [hkeep]
      exact ⟨rfl, rfl, rfl, rfl⟩
    | accepted id cautions =>
      right; left
      refine ⟨?_, id, changed_deliver hd⟩
      -- what was accepted found the store in use
      rcases s.deliver_cases d with ⟨about, reason, hrefused⟩ | ⟨m, t, noted, hs, -, -⟩
      · rw [hrefused] at hd
        cases hd
      · exact hs
  | subscribe l => exact Or.inl ⟨rfl, rfl, rfl, rfl⟩
  | cancel l => exact Or.inl ⟨rfl, rfl, rfl, rfl⟩
  | dispose => exact Or.inr (Or.inr rfl)

/-! ## Tidy stores -/

/-- The handles of a store are in order. -/
structure Tidy (s : Store) : Prop where
  /-- a live surface is stored under its own id -/
  keyed : ∀ e ∈ s.live, e.2.surface.id = e.1
  /-- no live handle is stale -/
  fresh : ∀ e ∈ s.live, e.2.stale = false
  /-- an id has one live surface at most -/
  nodup : (Record.keys s.live).Nodup
  /-- every other handle is stale -/
  stale : ∀ h ∈ s.retired, h.stale = true
  /-- each number that was given is that of one handle -/
  numbered : (s.handles.map Handle.number).Perm (List.range s.nextHandle)

/-- A store is tidy when it is new. -/
theorem tidy_empty (acceptsOverlay : Bool) : Tidy (empty acceptsOverlay) :=
  ⟨nofun, nofun, List.nodup_nil, nofun, List.Perm.refl _⟩

section Tidy

variable {s t : Store} {id : String}

/-- A new handle takes the next number, and every other keeps its own. -/
theorem numbered_of_changed (hs : Tidy s) (h : Changed s t id) :
    (t.handles.map Handle.number).Perm (List.range t.nextHandle) := by
  have hrange : (s.nextHandle :: s.handles.map Handle.number).Perm
      (List.range (s.nextHandle + 1)) := by
    rw [List.range_succ]
    exact (hs.numbered.cons _).trans (List.perm_append_singleton _ _).symm
  cases h with
  | created surface hid hbefore hlive hretired hnext =>
    have hput := Record.put_of_not_mem ⟨s.nextHandle, surface, false⟩
      ((Record.get?_eq_none_iff s.live id).mp hbefore)
    rw [hnext]
    refine List.Perm.trans ?_ hrange
    rw [handles, hlive, hput, hretired]
    simp only [handles, Record.values, List.map_append, List.map_cons, List.map_nil,
      List.append_assoc, List.singleton_append]
    exact List.perm_middle
  | replaced surface old hid hbefore hlive hretired hnext =>
    have hput := (Record.values_put_perm hbefore ⟨s.nextHandle, surface, false⟩).map Handle.number
    rw [hnext]
    refine List.Perm.trans ?_ hrange
    rw [handles, hlive, hretired]
    simp only [handles, List.map_append, List.map_cons] at hput ⊢
    exact List.perm_middle.trans (hput.append_right _)
  | updated handle components model hbefore hlive hretired hnext =>
    have hput := (Record.values_put_perm hbefore { handle with
      surface := { handle.surface with components := components, model := model } }).map
        Handle.number
    rw [hnext]
    refine List.Perm.trans ?_ hs.numbered
    rw [handles, hlive, hretired]
    simp only [handles, List.map_append, List.map_cons] at hput ⊢
    -- the number that is exchanged is the same
    exact hput.cons_inv.append_right _
  | removed old hbefore hlive hretired hnext =>
    have herase := (Record.values_erase_perm hs.nodup hbefore).map Handle.number
    rw [hnext]
    refine List.Perm.trans ?_ hs.numbered
    rw [handles, hlive, hretired]
    simp only [handles, List.map_append, List.map_cons] at herase ⊢
    exact List.perm_middle.trans (herase.append_right _)

/-- A handle that is not stale may be written under the id of its surface. -/
theorem Tidy.put (hs : Tidy s) {x : Handle} (hid : x.surface.id = id) (hfresh : x.stale = false)
    (hlive : t.live = Record.put s.live id x) (hstale : ∀ h ∈ t.retired, h.stale = true)
    (hnumbered : (t.handles.map Handle.number).Perm (List.range t.nextHandle)) : Tidy t := by
  refine ⟨?_, ?_, ?_, hstale, hnumbered⟩
  · intro e he
    rw [hlive] at he
    rcases Record.mem_put he with rfl | he
    · exact hid
    · exact hs.keyed e he
  · intro e he
    rw [hlive] at he
    rcases Record.mem_put he with rfl | he
    · exact hfresh
    · exact hs.fresh e he
  · rw [hlive]
    exact Record.nodup_keys_put _ _ _ hs.nodup

/-- A message that is accepted keeps the handles in order. -/
theorem tidy_of_changed (hs : Tidy s) (h : Changed s t id) : Tidy t := by
  have hnumbered := numbered_of_changed hs h
  -- one case for each change that a message makes
  cases h with
  | created surface hid hbefore hlive hretired hnext =>
    exact hs.put hid rfl hlive (by rw [hretired]; exact hs.stale) hnumbered
  | replaced surface old hid hbefore hlive hretired hnext =>
    have hstale : ∀ h ∈ t.retired, h.stale = true := by
      rw [hretired]
      exact List.forall_mem_cons.mpr ⟨rfl, hs.stale⟩
    exact hs.put hid rfl hlive hstale hnumbered
  | updated handle components model hbefore hlive hretired hnext =>
    have hmem := Record.mem_of_get?_eq_some hbefore
    have hid : handle.surface.id = id := hs.keyed _ hmem
    have hfresh : handle.stale = false := hs.fresh _ hmem
    have hstale : ∀ h ∈ t.retired, h.stale = true := by
      rw [hretired]
      exact hs.stale
    -- the handle keeps its number, and its surface the id
    let surface := { handle.surface with components := components, model := model }
    exact hs.put (x := { handle with surface := surface }) hid hfresh hlive hstale hnumbered
  | removed old hbefore hlive hretired hnext =>
    refine ⟨?_, ?_, ?_, ?_, hnumbered⟩
    · intro e he
      rw [hlive] at he
      exact hs.keyed e (List.mem_filter.mp he).1
    · intro e he
      rw [hlive] at he
      exact hs.fresh e (List.mem_filter.mp he).1
    · rw [hlive]
      exact Record.nodup_keys_erase _ _ hs.nodup
    · rw [hretired]
      exact List.forall_mem_cons.mpr ⟨rfl, hs.stale⟩

/-- A store that is disposed of is tidy. -/
theorem tidy_dispose (hs : Tidy s) : Tidy s.dispose := by
  have hlive : s.dispose.live = [] := by rw [dispose_eq]
  refine ⟨?_, ?_, ?_, ?_, ?_⟩
  · rw [hlive]
    exact nofun
  · rw [hlive]
    exact nofun
  · rw [hlive]
    exact List.nodup_nil
  · intro h hh
    -- a handle that is retired was live, and is stale now, or was retired before
    rcases mem_retired_dispose.mp hh with ⟨e, -, rfl⟩ | hh
    · rfl
    · exact hs.stale h hh
  · have hnumbers := (List.reverse_perm ((Record.values s.live).map Handle.number)).append_right
      (s.retired.map Handle.number)
    rw [dispose_eq]
    refine List.Perm.trans ?_ hs.numbered
    simpa [handles, Record.values, List.map_reverse, Function.comp_def] using hnumbers

/-- A step keeps the handles in order. -/
theorem tidy_step (hs : Tidy s) (a : Step) : Tidy (s.step a) := by
  rcases s.step_cases a with ⟨hlive, hretired, hnext, -⟩ | ⟨-, id, hchanged⟩ | hdispose
  · have hhandles : (s.step a).handles = s.handles := by rw [handles, handles, hlive, hretired]
    exact ⟨hlive ▸ hs.keyed, hlive ▸ hs.fresh, hlive ▸ hs.nodup, hretired ▸ hs.stale,
      by rw [hhandles, hnext]; exact hs.numbered⟩
  · exact tidy_of_changed hs hchanged
  · rw [hdispose]
    exact tidy_dispose hs

/-- Every run leaves a tidy store. -/
theorem tidy_run (hs : Tidy s) (steps : List Step) : Tidy (s.run steps) := by
  induction steps generalizing s with
  | nil => exact hs
  | cons a steps ih => exact ih (tidy_step hs a)

/-! ## What a tidy store says of a handle -/

/-- A handle is not stale exactly if it is the one that is stored under the id of its surface. -/
theorem Tidy.stale_eq_false_iff (hs : Tidy s) {h : Handle} (hh : h ∈ s.handles) :
    h.stale = false ↔ Record.get? s.live h.surface.id = some h := by
  constructor
  · intro hfresh
    rcases List.mem_append.mp hh with hlive | hretired
    · obtain ⟨e, he, rfl⟩ := List.mem_map.mp hlive
      rw [hs.keyed e he]
      exact Record.get?_of_mem hs.nodup he
    · rw [hs.stale h hretired] at hfresh
      cases hfresh
  · intro hget
    exact hs.fresh _ (Record.mem_of_get?_eq_some hget)

/-- A handle is found by its number. -/
theorem Tidy.handle?_number (hs : Tidy s) {h : Handle} (hh : h ∈ s.handles) :
    s.handle? h.number = some h := by
  have hnodup : (s.handles.map Handle.number).Nodup :=
    hs.numbered.nodup_iff.mpr List.nodup_range
  cases hfind : s.handle? h.number with
  | none =>
    have hnone := List.find?_eq_none.mp hfind h hh
    simp at hnone
  | some h' =>
    have hnumber : h'.number = h.number := by simpa using List.find?_some hfind
    have hmem : h' ∈ s.handles := List.mem_of_find?_eq_some hfind
    rw [List.inj_on_of_nodup_map hnodup hmem hh hnumber]

/-- A number leads to one handle. -/
theorem Tidy.handle?_eq_some_iff (hs : Tidy s) {n : Nat} {h : Handle} :
    s.handle? n = some h ↔ h ∈ s.handles ∧ h.number = n := by
  constructor
  · intro hfind
    exact ⟨List.mem_of_find?_eq_some hfind, by simpa using List.find?_some hfind⟩
  · rintro ⟨hh, rfl⟩
    exact hs.handle?_number hh

/-- The numbers that were given are those of the handles. -/
theorem Tidy.exists_handle?_iff (hs : Tidy s) {n : Nat} :
    (∃ h, s.handle? n = some h) ↔ n < s.nextHandle := by
  calc (∃ h, s.handle? n = some h)
      ↔ n ∈ s.handles.map Handle.number := by simp [hs.handle?_eq_some_iff]
    _ ↔ n ∈ List.range s.nextHandle := hs.numbered.mem_iff
    _ ↔ n < s.nextHandle := List.mem_range

/-! ## What stays -/

/-- What a store keeps of a handle: the number, the id of its surface, and all of it if it is stale. -/
structure Kept (x y : Handle) : Prop where
  number : y.number = x.number
  surface : y.surface.id = x.surface.id
  stale : x.stale = true → y = x

theorem Kept.refl (x : Handle) : Kept x x := ⟨rfl, rfl, fun _ => rfl⟩

/-- A handle that was kept twice was kept. -/
theorem Kept.trans {x y z : Handle} (h : Kept x y) (h' : Kept y z) : Kept x z := by
  refine ⟨h'.number.trans h.number, h'.surface.trans h.surface, fun hx => ?_⟩
  obtain rfl := h.stale hx
  exact h'.stale hx

/-- A live handle may go stale and have another surface of the same id. -/
theorem Kept.of_fresh {x y : Handle} (hx : x.stale = false) (hnumber : y.number = x.number)
    (hsurface : y.surface.id = x.surface.id) : Kept x y :=
  ⟨hnumber, hsurface, fun hstale => by rw [hx] at hstale; cases hstale⟩

theorem mem_handles_of_mem_live {e : String × Handle} (h : e ∈ s.live) : e.2 ∈ s.handles :=
  List.mem_append_left _ (List.mem_map_of_mem h)

/-- The stale handles stay, and there may be one more. -/
theorem retired_subset_of_changed (h : Changed s t id) : s.retired ⊆ t.retired := by
  cases h with
  | created _ _ _ _ hretired =>
    rw [hretired]
    exact List.Subset.refl _
  | replaced _ _ _ _ _ hretired =>
    rw [hretired]
    exact List.subset_cons_self _ _
  | updated _ _ _ _ _ hretired =>
    rw [hretired]
    exact List.Subset.refl _
  | removed _ _ _ hretired =>
    rw [hretired]
    exact List.subset_cons_self _ _

/-- The handle of the surface that a message changes is kept: it goes stale, or it is written. -/
theorem exists_kept_of_changed_self (h : Changed s t id) {x : Handle}
    (hx : Record.get? s.live id = some x) (hfresh : x.stale = false) :
    ∃ y ∈ t.handles, Kept x y := by
  -- the handle is given up, frozen as it was, or stays live with another surface
  cases h with
  | created _ _ hbefore =>
    rw [hbefore] at hx
    cases hx
  | replaced _ old _ hbefore _ hretired =>
    obtain rfl := Option.some.inj (hbefore.symm.trans hx)
    exact ⟨{ old with stale := true }, by simp [handles, hretired], .of_fresh hfresh rfl rfl⟩
  | updated handle components model hbefore hlive =>
    obtain rfl := Option.some.inj (hbefore.symm.trans hx)
    have hmem := Record.mem_of_get?_eq_some (Record.get?_put_self s.live id { handle with
      surface := { handle.surface with components := components, model := model } })
    rw [← hlive] at hmem
    exact ⟨_, mem_handles_of_mem_live hmem, .of_fresh hfresh rfl rfl⟩
  | removed old hbefore _ hretired =>
    obtain rfl := Option.some.inj (hbefore.symm.trans hx)
    exact ⟨{ old with stale := true }, by simp [handles, hretired], .of_fresh hfresh rfl rfl⟩

/-- A message that is accepted keeps every handle. -/
theorem exists_kept_of_changed (hs : Tidy s) (h : Changed s t id) {x : Handle} (hx : x ∈ s.handles) :
    ∃ y ∈ t.handles, Kept x y := by
  rcases List.mem_append.mp hx with hlive | hretired
  · obtain ⟨⟨key, x⟩, he, rfl⟩ := List.mem_map.mp hlive
    by_cases hkey : key = id
    · subst hkey
      exact exists_kept_of_changed_self h (Record.get?_of_mem hs.nodup he) (hs.fresh _ he)
    · have hrest : (key, x) ∈ Record.erase t.live id := by
        rw [h.erase_live]
        exact List.mem_filter.mpr ⟨he, by simpa using hkey⟩
      exact ⟨x, mem_handles_of_mem_live (List.mem_filter.mp hrest).1, .refl x⟩
  · exact ⟨x, List.mem_append_right _ (retired_subset_of_changed h hretired), .refl x⟩

/-- To dispose of a store makes every handle stale and changes nothing else about it. -/
theorem retired_dispose_of_mem (hs : Tidy s) {x : Handle} (hx : x ∈ s.handles) :
    { x with stale := true } ∈ s.dispose.retired := by
  rw [mem_retired_dispose]
  rcases List.mem_append.mp hx with hlive | hretired
  · obtain ⟨e, he, rfl⟩ := List.mem_map.mp hlive
    exact Or.inl ⟨e, he, rfl⟩
  · right
    rw [← hs.stale x hretired]
    exact hretired

/-- A handle that is there before a step is there behind it, and was kept. -/
theorem exists_kept_step (hs : Tidy s) (a : Step) {x : Handle} (hx : x ∈ s.handles) :
    ∃ y ∈ (s.step a).handles, Kept x y := by
  rcases s.step_cases a with ⟨hlive, hretired, -, -⟩ | ⟨-, id, hchanged⟩ | hdispose
  · exact ⟨x, by rwa [handles, hlive, hretired], .refl x⟩
  · exact exists_kept_of_changed hs hchanged hx
  · rw [hdispose]
    refine ⟨_, List.mem_append_right _ (retired_dispose_of_mem hs hx), rfl, rfl, fun hstale => ?_⟩
    rw [← hstale]

/-- However a store goes on, it keeps every handle. -/
theorem exists_kept_run (hs : Tidy s) (steps : List Step) {x : Handle} (hx : x ∈ s.handles) :
    ∃ y ∈ (s.run steps).handles, Kept x y := by
  induction steps generalizing s x with
  | nil => exact ⟨x, hx, .refl x⟩
  | cons a steps ih =>
    obtain ⟨y, hy, hxy⟩ := exists_kept_step hs a hx
    obtain ⟨z, hz, hyz⟩ := ih (tidy_step hs a) hy
    exact ⟨z, hz, hxy.trans hyz⟩

/-! ## After the end -/

/-- A store that is disposed of takes no message. -/
theorem isAccepted_deliver_of_disposed (hs : s.disposed = true) (d : Delivery) :
    (s.deliver d).2.isAccepted = false := by
  rcases s.deliver_cases d with ⟨about, reason, hd⟩ | ⟨m, t, cautions, hlive, -⟩
  · rw [hd]
    rfl
  · rw [hs] at hlive
    cases hlive

/-- What is disposed of stays so, and its handles are the ones it had. -/
theorem run_of_disposed (hs : s.disposed = true) (hlive : s.live = []) (steps : List Step) :
    (s.run steps).live = [] ∧ (s.run steps).retired = s.retired ∧
      (s.run steps).nextHandle = s.nextHandle ∧ (s.run steps).disposed = true := by
  induction steps generalizing s with
  | nil => exact ⟨hlive, rfl, rfl, hs⟩
  | cons a steps ih =>
    have hstep : (s.step a).live = [] ∧ (s.step a).retired = s.retired ∧
        (s.step a).nextHandle = s.nextHandle ∧ (s.step a).disposed = true := by
      rcases s.step_cases a with ⟨hl, hr, hn, hd⟩ | ⟨hopen, -⟩ | hdispose
      · exact ⟨hl.trans hlive, hr, hn, hd.trans hs⟩
      · rw [hs] at hopen
        cases hopen
      · rw [hdispose, dispose_eq, hlive]
        exact ⟨rfl, rfl, rfl, rfl⟩
    obtain ⟨hl, hr, hn, hd⟩ := ih hstep.2.2.2 hstep.1
    exact ⟨hl, hr.trans hstep.2.1, hn.trans hstep.2.2.1, hd⟩

end Tidy

/-- Of the handles, one for each surface that was created, exactly those are not stale that are stored
under the ids of their surfaces, one for an id at most.  However the store goes on, every handle stays
under its number with a surface of the same id, and a stale one stays as it is to the last component:
it is never live again.  Once the store is disposed of every handle is stale, with the surface it had,
there is no live surface, and no message is accepted. -/
theorem live_and_stale_handles (acceptsOverlay : Bool) (steps : List Step) :
    let s := (empty acceptsOverlay).run steps
    (∀ n, (∃ h, s.handle? n = some h) ↔ n < s.nextHandle) ∧
    (∀ n h, s.handle? n = some h →
      (h.stale = false ↔ Record.get? s.live h.surface.id = some h)) ∧
    (∀ n k h j, s.handle? n = some h → s.handle? k = some j → h.stale = false → j.stale = false →
      h.surface.id = j.surface.id → n = k) ∧
    (∀ n h later, s.handle? n = some h → ∃ h', (s.run later).handle? n = some h' ∧
      h'.surface.id = h.surface.id ∧
      (h.stale = true → h' = h ∧ ∀ e ∈ (s.run later).live, e.2.number ≠ n)) ∧
    ∀ later, let t := s.dispose.run later
      t.live = [] ∧ t.nextHandle = s.nextHandle ∧
      (∀ n h, s.handle? n = some h → t.handle? n = some { h with stale := true }) ∧
      ∀ d, (t.deliver d).2.isAccepted = false := by
  intro s
  have hs : Tidy s := tidy_run (tidy_empty acceptsOverlay) steps
  refine ⟨fun n => hs.exists_handle?_iff, fun n h hn => ?_, fun n k h j hn hk hh hj hid => ?_,
    fun n h later hn => ?_, fun later => ?_⟩
  · exact hs.stale_eq_false_iff (hs.handle?_eq_some_iff.mp hn).1
  · obtain ⟨hmem, rfl⟩ := hs.handle?_eq_some_iff.mp hn
    obtain ⟨jmem, rfl⟩ := hs.handle?_eq_some_iff.mp hk
    have hget := (hs.stale_eq_false_iff hmem).mp hh
    rw [hid, (hs.stale_eq_false_iff jmem).mp hj] at hget
    rw [Option.some.inj hget]
  · have ht : Tidy (s.run later) := tidy_run hs later
    obtain ⟨hmem, rfl⟩ := hs.handle?_eq_some_iff.mp hn
    obtain ⟨h', hmem', hkept⟩ := exists_kept_run hs later hmem
    have hlater : (s.run later).handle? h.number = some h' :=
      ht.handle?_eq_some_iff.mpr ⟨hmem', hkept.number⟩
    refine ⟨h', hlater, hkept.surface, fun hstale => ⟨hkept.stale hstale, fun e he hnumber => ?_⟩⟩
    -- the handle that is live under the number would be the stale one
    have hlive := ht.handle?_eq_some_iff.mpr ⟨mem_handles_of_mem_live he, hnumber⟩
    have hsame : e.2 = h := (Option.some.inj (hlive.symm.trans hlater)).trans (hkept.stale hstale)
    have hfresh := ht.fresh e he
    rw [hsame, hstale] at hfresh
    cases hfresh
  · intro t
    have hend : s.dispose.disposed = true ∧ s.dispose.live = [] := by
      rw [dispose_eq]
      exact ⟨rfl, rfl⟩
    obtain ⟨hlive, hretired, hnext, hdisposed⟩ := run_of_disposed hend.1 hend.2 later
    refine ⟨hlive, ?_, fun n h hn => ?_, isAccepted_deliver_of_disposed hdisposed⟩
    · rw [hnext, dispose_eq]
    · obtain ⟨hmem, rfl⟩ := hs.handle?_eq_some_iff.mp hn
      have ht : Tidy t := tidy_run (tidy_dispose hs) later
      refine ht.handle?_eq_some_iff.mpr ⟨List.mem_append_right _ ?_, rfl⟩
      rw [hretired]
      exact retired_dispose_of_mem hs hmem

end UiSurface.Store
