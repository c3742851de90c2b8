import UiSurface.Proofs.Previewing
import UiSurface.Proofs.Renderable

/-!
# The gate of saving

A request passes several checks before its batch is kept, each of which relies on those before it: the
batch is judged, the surfaces that it creates are looked for, their id is judged and compared with the one
that is asked for, and at last the batch is folded.  `Design.Savable` says what a batch that may be kept
is, without a word about how that is found out.  The gate finds exactly these batches, and none of its
checks fails on what the others let through.

Main lemmas: `Design.exists_saveProblems` (the gate always has a verdict), `Design.Savable.saveProblems`
and `Design.savable_of_saveProblems` (it is the right one), `Service.saveDesign_of_savable` and
`Service.saveDesign_of_not_savable` (what is done then), `Service.save_gate_is_exact`.
-/

namespace UiSurface

namespace Design

/-! ## What may be kept -/

/-- A batch that may be kept under an id: it has no problem, all of its messages that create a surface
create that of the id, the id may name a file and is the one that is asked for, and the surface is there
after the batch. -/
structure Savable (acceptsOverlay : Bool) (request : SaveRequest) (id : String) : Prop where
  sound : Validation.complete (.arr request.messages) = []
  created : ∀ v ∈ request.messages, ∀ m, Message.decode v = .ok m → m.kind = .createSurface →
    m.surface = id
  valid : isValidId id = true
  requested : ∀ other, request.id = some other → other = id
  left : (((Store.empty acceptsOverlay).applyValues request.messages).1.surface? id).isSome = true

/-! ## What is found of a sound batch -/

/-- A batch without a problem has a message that creates a surface. -/
theorem exists_create_of_sound {vs : List Json} (h : Validation.complete (.arr vs) = []) :
    ∃ v ∈ vs, ∃ m, Message.decode v = .ok m ∧ m.kind = .createSurface := by
  obtain ⟨_, ms, hvs, hms, -⟩ := foldBatch_eq_of_sound false (hasStructural_of_eq_nil h)
  obtain rfl := Json.arr.inj hvs
  have hkinds : .createSurface ∈ ms.map Message.kind := by
    rw [← Message.kinds_of_decodeAll hms]
    cases vs with
    | nil => cases h
    | cons v vs =>
      have hcompleteness := (List.append_eq_nil_iff.mp h).2
      have hcreate := (List.append_eq_nil_iff.mp hcompleteness).1
      exact List.contains_iff_mem.mp (Validation.require_eq_nil_iff.mp hcreate)
  obtain ⟨m, hm, hkind⟩ := List.mem_map.mp hkinds
  obtain ⟨v, hv, hdecode⟩ := (Message.mem_of_decodeAll hms).mp hm
  exact ⟨v, hv, m, hdecode, hkind⟩

/-- So the surfaces that it creates have a first. -/
theorem createdSurfaces_ne_nil {vs : List Json} (h : Validation.complete (.arr vs) = []) :
    createdSurfaces vs ≠ [] := by
  obtain ⟨v, hv, m, hm, hkind⟩ := exists_create_of_sound h
  obtain ⟨index, hindex⟩ := List.mem_iff_getElem?.mp hv
  have hmem : (index, m.surface) ∈ createdSurfaces vs :=
    mem_createdSurfaces.mpr ⟨v, hindex, createdSurface?_of_decode hm hkind⟩
  exact List.ne_nil_of_mem hmem

/-- Ids that are all the same are at most one. -/
theorem length_distinctIds_le_one {ids : List String} (h : ∀ a ∈ ids, ∀ b ∈ ids, a = b) :
    (distinctIds ids).length ≤ 1 := by
  have hsorted : ∀ a ∈ ids.mergeSort Text.precedes,
      ∀ b ∈ ids.mergeSort Text.precedes, a = b := by
    intro a ha b hb
    exact h a (List.mem_mergeSort.mp ha) b (List.mem_mergeSort.mp hb)
  unfold distinctIds
  cases hids : ids.mergeSort Text.precedes with
  | nil => simp
  | cons a rest =>
    have hrest : rest.filter (fun b => !b == a) = [] := by
      rw [List.filter_eq_nil_iff]
      intro b hb
      rw [hids] at hsorted
      simp [hsorted b (List.mem_cons_of_mem a hb) a List.mem_cons_self]
    -- everything behind the first id is that id again
    rw [List.eraseDups_cons, hrest]
    simp

/-- Nothing is wrong with an id that is asked for if it is that of the surface. -/
theorem requestedProblems_eq_nil_iff {requested : Option String} {id : String}
    (hrequested : ∀ other, requested = some other → isValidId other = true) :
    requestedProblems requested id = [] ↔ ∀ other, requested = some other → other = id := by
  cases requested with
  | none => simp [requestedProblems]
  | some other =>
    have hother : other.isEmpty = false := by
      have hvalid := hrequested other rfl
      simp only [isValidId, isIdText, Bool.and_eq_true, Bool.not_eq_true'] at hvalid
      exact hvalid.2.1
    simp [requestedProblems, hother, Validation.require_eq_nil_iff]

/-! ## The verdict of the gate -/

/-- The gate has a verdict on every request: a batch that was judged before creates a surface, and can be
folded. -/
theorem exists_saveProblems (acceptsOverlay : Bool) (request : SaveRequest) :
    ∃ problems, saveProblems acceptsOverlay request = .ok problems := by
  unfold saveProblems
  split
  · rename_i hsound
    obtain ⟨_, ms, -, -, hfold⟩ :=
      foldBatch_eq_of_sound acceptsOverlay (hasStructural_of_eq_nil hsound)
    unfold gateProblems
    dsimp only
    split
    · -- a batch without a fault creates a surface, so there is a first one
      rename_i hnone
      exact absurd hnone (createdSurfaces_ne_nil hsound)
    · split
      · exact ⟨_, rfl⟩
      · split
        · exact ⟨_, rfl⟩
        · split
          · exact ⟨_, rfl⟩
          · rw [hfold]
            exact ⟨_, rfl⟩
  · exact ⟨_, rfl⟩

section Verdict

variable {acceptsOverlay : Bool} {request : SaveRequest}
  (hrequested : ∀ other, request.id = some other → isValidId other = true)

include hrequested

/-- What passes the gate may be kept, under the id of the first surface that it creates. -/
theorem savable_of_saveProblems (h : saveProblems acceptsOverlay request = .ok []) :
    Savable acceptsOverlay request (idOf request.messages "") := by
  obtain ⟨d, hd, hbatch, hid⟩ := exists_accepted_of_saveProblems h
  obtain ⟨hsound, hvalid, ms, x, hms, -, hx, -⟩ := hd.exists_fold
  obtain hmessages : d.messages.map .obj = request.messages := Json.arr.inj hbatch
  obtain ⟨-, hgate⟩ := saveProblems_eq_nil_iff.mp h
  obtain ⟨index, id, rest, -, hcreated, -, -, hproblems, -⟩ := gateProblems_eq_nil_iff.mp hgate
  have hfirst := idOf_of_createdSurfaces hcreated ""
  rw [hmessages] at hms
  rw [hbatch] at hsound
  rw [hid]
  refine ⟨hsound, ?_, hvalid, ?_, ?_⟩
  · intro v hv m hm hkind
    exact hd.surface_of_create (by rw [hmessages, hms]) ((Message.mem_of_decodeAll hms).mpr ⟨v, hv, hm⟩)
      hkind
  · -- the id of the design is that of the first surface created
    rw [← hid, hfirst]
    exact (requestedProblems_eq_nil_iff hrequested).mp hproblems
  · rw [Store.applyValues_of_decodeAll _ hms, hx]
    rfl

/-- What may be kept passes the gate. -/
theorem Savable.saveProblems {id : String} (h : Savable acceptsOverlay request id) :
    saveProblems acceptsOverlay request = .ok [] ∧ idOf request.messages "" = id := by
  obtain ⟨_, ms, hvs, hms, hfold⟩ :=
    foldBatch_eq_of_sound acceptsOverlay (hasStructural_of_eq_nil h.sound)
  obtain rfl := Json.arr.inj hvs
  -- every surface that is found is that of the id
  have hall : ∀ e ∈ createdSurfaces request.messages, e.2 = id := by
    rintro ⟨index, other⟩ he
    obtain ⟨v, hv, hcreates⟩ := mem_createdSurfaces.mp he
    have hmem := List.mem_of_getElem? hv
    obtain ⟨m, hm⟩ := Message.exists_decodeAll_iff.mp ⟨ms, hms⟩ v hmem
    obtain ⟨hkind, hsurface⟩ := creates_of_createdSurface? hcreates hm
    exact hsurface.symm.trans (h.created v hmem m hm hkind)
  have hone : (distinctIds ((createdSurfaces request.messages).map Prod.snd)).length ≤ 1 := by
    refine length_distinctIds_le_one fun a ha b hb => ?_
    obtain ⟨e, he, rfl⟩ := List.mem_map.mp ha
    obtain ⟨f, hf, rfl⟩ := List.mem_map.mp hb
    rw [hall e he, hall f hf]
  cases hcreated : createdSurfaces request.messages with
  | nil => exact absurd hcreated (createdSurfaces_ne_nil h.sound)
  | cons first rest =>
    obtain ⟨index, other⟩ := first
    obtain rfl : other = id := hall (index, other) (hcreated ▸ List.mem_cons_self)
    refine ⟨saveProblems_eq_nil_iff.mpr ⟨h.sound, gateProblems_eq_nil_iff.mpr ?_⟩,
      idOf_of_createdSurfaces hcreated ""⟩
    have hthere : Record.has ((Store.empty acceptsOverlay).applyAll ms).1.live other = true := by
      have hleft := h.left
      rw [Store.applyValues_of_decodeAll _ hms, Store.surface?, Option.isSome_map] at hleft
      exact hleft
    exact ⟨index, other, rest, _, hcreated, hone, h.valid,
      (requestedProblems_eq_nil_iff hrequested).mpr h.requested, hfold, hthere⟩

end Verdict

end Design

namespace Service

/-- An answer is held back only for a value that is too deep. -/
theorem depth_of_answerWith {seen : Answer.DepthFault} {values : List Json} {status : Nat} {body : Json}
    {fault : Fault} (h : answerWith seen values status body = .error fault) :
    ∃ depth, fault = .depth depth := by
  unfold answerWith at h
  cases hvalues : Answer.withValues seen values (.json status body) with
  | ok answer =>
    rw [hvalues] at h
    cases h
  | error depth =>
    rw [hvalues] at h
    cases h
    exact ⟨depth, rfl⟩

/-- A batch that may be kept under an id is kept under it, and the answer is its design. -/
theorem saveDesign_of_savable (s : Service) {request : Design.SaveRequest}
    (hrequested : ∀ other, request.id = some other → Design.isValidId other = true) {id : String}
    (h : Design.Savable s.acceptsOverlay request id) :
    ∃ d : Design, d.id = id ∧ d.batch = .arr request.messages ∧
      s.saveDesign request = ({ s with storage := s.storage.keep d },
        answerWith .atAssembly d.values 201 (s.encodeDesign d)) := by
  obtain ⟨hgate, rfl⟩ := h.saveProblems hrequested
  obtain ⟨d, -, hsaved⟩ := s.exists_saveDesign hgate
  exact ⟨d, hsaved⟩

/-- A batch that may not be kept under any id is refused with a problem at least. -/
theorem saveDesign_of_not_savable (s : Service) {request : Design.SaveRequest}
    (hrequested : ∀ other, request.id = some other → Design.isValidId other = true)
    (h : ¬ ∃ id, Design.Savable s.acceptsOverlay request id) :
    ∃ p ps, s.saveDesign request = (s, .ok (Answer.rejected (p :: ps))) := by
  obtain ⟨problems, hproblems⟩ := Design.exists_saveProblems s.acceptsOverlay request
  cases problems with
  | nil => exact absurd ⟨_, Design.savable_of_saveProblems hrequested hproblems⟩ h
  | cons p ps => exact ⟨p, ps, by rw [saveDesign, hproblems]⟩

/-- The gate of saving is exact, safe and atomic, for every list of values and whatever id is asked for,
if it is one that may name a file.  A batch that may be kept under an id is kept under that id, just as it
is, and the answer is its design.  Any other is refused with a problem at least, and the service is what
it was.  A sound batch always has a first surface and can be folded, so nothing fails but that a design
may be too deep to be written in an answer. -/
theorem save_gate_is_exact (s : Service) {request : Design.SaveRequest}
    (hrequested : ∀ other, request.id = some other → Design.isValidId other = true) :
    (∀ id, Design.Savable s.acceptsOverlay request id →
      ∃ d : Design, d.id = id ∧ d.batch = .arr request.messages ∧
        s.saveDesign request = ({ s with storage := s.storage.keep d },
          answerWith .atAssembly d.values 201 (s.encodeDesign d))) ∧
    ((¬ ∃ id, Design.Savable s.acceptsOverlay request id) →
      ∃ p ps, s.saveDesign request = (s, .ok (Answer.rejected (p :: ps)))) ∧
    (Validation.complete (.arr request.messages) = [] →
      Design.createdSurfaces request.messages ≠ [] ∧
        ∃ store, Design.foldBatch s.acceptsOverlay (.arr request.messages) = .ok store) ∧
    ∀ fault, (s.saveDesign request).2 = .error fault → ∃ depth, fault = .depth depth := by
  refine ⟨fun id => s.saveDesign_of_savable hrequested, s.saveDesign_of_not_savable hrequested,
    fun hsound => ⟨Design.createdSurfaces_ne_nil hsound, ?_⟩, fun fault hfault => ?_⟩
  · obtain ⟨_, ms, -, -, hfold⟩ :=
      Design.foldBatch_eq_of_sound s.acceptsOverlay (hasStructural_of_eq_nil hsound)
    exact ⟨_, hfold⟩
  · -- a refusal is always answered; only writing the answer can fail, when it is too deep
    by_cases hsavable : ∃ id, Design.Savable s.acceptsOverlay request id
    · obtain ⟨id, hid⟩ := hsavable
      obtain ⟨d, -, -, hanswer⟩ := s.saveDesign_of_savable hrequested hid
      rw [hanswer] at hfault
      exact depth_of_answerWith hfault
    · obtain ⟨p, ps, hanswer⟩ := s.saveDesign_of_not_savable hrequested hsavable
      rw [hanswer] at hfault
      cases hfault

/-- A tile is kept under its own id, and refused under another. -/
theorem tile_is_kept_under_its_own_id :
    let create : Json := .obj [("createSurface", .obj [("surfaceId", .str "tile")])]
    let update : Json := .obj [("updateComponents", .obj [("surfaceId", .str "tile"),
      ("components", .arr [.obj [("id", .str "root"), ("component", .str "Text")]])])]
    let request (id : String) : Design.SaveRequest := ⟨some id, [create, update]⟩
    let s := Service.new (.shelf []) false ⟨2026, 10, 19, 15, 7⟩ ""
    (∀ other, (request "tile").id = some other → Design.isValidId other = true) ∧
      (∀ other, (request "clock").id = some other → Design.isValidId other = true) ∧
      (∃ d : Design, d.id = "tile" ∧ d.batch = .arr [create, update] ∧
        s.saveDesign (request "tile") = ({ s with storage := s.storage.keep d },
          answerWith .atAssembly d.values 201 (s.encodeDesign d))) ∧
      ∃ p ps, s.saveDesign (request "clock") = (s, .ok (Answer.rejected (p :: ps))) := by
  intro create update request s
  have hvalid : ∀ id ∈ ["tile", "clock"], ∀ other, (request id).id = some other →
      Design.isValidId other = true := by
    rintro id hid other hother
    obtain rfl := Option.some.inj hother
    exact (by decide +kernel : ∀ id ∈ ["tile", "clock"], Design.isValidId id = true) id hid
  have hcreate : Message.decode create = .ok (.createSurface "tile" .null .null []) := by rfl
  have hsavable : Design.Savable s.acceptsOverlay (request "tile") "tile" := by
    refine ⟨by decide +kernel, ?_, by decide +kernel, fun other hother => ?_, by decide +kernel⟩
    · intro v hv m hm hkind
      simp only [request, List.mem_cons, List.not_mem_nil, or_false] at hv
      rcases hv with rfl | rfl
      · cases hcreate.symm.trans hm
        rfl
      · cases hm
        cases hkind
    · exact (Option.some.inj hother).symm
  have hnot : ¬ ∃ id, Design.Savable s.acceptsOverlay (request "clock") id := by
    rintro ⟨id, h⟩
    have hrequested := h.requested "clock" rfl
    have hcreated := h.created create List.mem_cons_self _ hcreate rfl
    exact absurd (hcreated.trans hrequested.symm) (by decide)
  exact ⟨hvalid "tile" (by simp), hvalid "clock" (by simp),
    (s.save_gate_is_exact (hvalid "tile" (by simp))).1 "tile" hsavable,
    (s.save_gate_is_exact (hvalid "clock" (by simp))).2.1 hnot⟩

end Service

end UiSurface
