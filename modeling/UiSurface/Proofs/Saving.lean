import UiSurface.Proofs.Keeping
import UiSurface.Proofs.Steps
import UiSurface.Web.Service

/-!
# What a design that was saved is

A design is saved only if its batch has no problem, creates one surface under an id that may name a
file, and leaves that surface.  `Design.Accepted` says this of a design by itself, so that what follows
holds of every design that was ever saved, wherever it is kept.

Main lemmas: `Design.gateProblems_eq_nil_iff`, `Design.Accepted.exists_fold` (an accepted design has its
surface), `Service.exists_saveDesign` (what passes the gate is kept).
-/

namespace UiSurface

namespace Design

/-! ## Surfaces that are created -/

/-- The surfaces that a batch creates are told by its messages. -/
theorem mem_createdSurfaces {vs : List Json} {index : Nat} {id : String} :
    (index, id) ∈ createdSurfaces vs ↔ ∃ v, vs[index]? = some v ∧ createdSurface? v = some id := by
  simp only [createdSurfaces, List.mem_filterMap, Option.map_eq_some_iff, Prod.mk.injEq]
  constructor
  · rintro ⟨⟨v, i⟩, hv, _, hid, rfl, rfl⟩
    exact ⟨v, List.mem_zipIdx_iff_getElem?.mp hv, hid⟩
  · rintro ⟨v, hv, hid⟩
    exact ⟨(v, index), List.mem_zipIdx_iff_getElem?.mpr hv, id, hid, rfl, rfl⟩

/-- An envelope that creates a surface decodes to the message that creates it. -/
theorem creates_of_createdSurface? {v : Json} {id : String} (h : createdSurface? v = some id)
    {m : Message} (hm : Message.decode v = .ok m) : m.kind = .createSurface ∧ m.surface = id := by
  obtain ⟨members, rfl, hmembers⟩ := Message.decode_eq_ok_iff.mp hm
  obtain ⟨hcarried, body, hbody, hid, -⟩ := Message.decodeMembers_eq_ok_iff.mp hmembers
  cases hcreate : Json.field members "createSurface" with
  | obj created =>
    simp only [createdSurface?, hcreate] at h
    have hget : Record.get? members MessageKind.createSurface.name = some (.obj created) :=
      (Json.field_eq_iff (by simp)).mp hcreate
    -- an envelope carries no second kind
    have hkind : MessageKind.createSurface ∈ MessageKind.carriedBy members := by
      simp [MessageKind.carriedBy, MessageKind.all, Record.has, hget]
    rw [hcarried, List.mem_singleton] at hkind
    rw [← hkind, hget] at hbody
    obtain rfl := Json.obj.inj (Option.some.inj hbody)
    exact ⟨hkind.symm, Option.some.inj (hid.symm.trans h)⟩
  | null | bool | num | str | arr => simp [createdSurface?, hcreate] at h

/-- The message that creates a surface comes from an envelope that does. -/
theorem createdSurface?_of_decode {v : Json} {m : Message} (hm : Message.decode v = .ok m)
    (hkind : m.kind = .createSurface) : createdSurface? v = some m.surface := by
  obtain ⟨members, rfl, hmembers⟩ := Message.decode_eq_ok_iff.mp hm
  obtain ⟨-, body, hbody, hid, -⟩ := Message.decodeMembers_eq_ok_iff.mp hmembers
  rw [hkind] at hbody
  have hcreate : Json.field members "createSurface" = .obj body :=
    (Json.field_eq_iff (by simp)).mpr hbody
  simp only [createdSurface?, hcreate, hid]

theorem eq_of_length_distinctIds {ids : List String} (h : (distinctIds ids).length ≤ 1) {a b : String}
    (ha : a ∈ ids) (hb : b ∈ ids) : a = b := by
  have hmem : ∀ {c}, c ∈ ids → c ∈ distinctIds ids := fun hc => by simpa [distinctIds] using hc
  cases hids : distinctIds ids with
  | nil =>
    have := hmem ha
    simp [hids] at this
  | cons c rest =>
    obtain rfl : rest = [] := by simpa [hids] using h
    have ha' := hmem ha
    have hb' := hmem hb
    simp only [hids, List.mem_singleton] at ha' hb'
    rw [ha', hb']

theorem idOf_of_createdSurfaces {vs : List Json} {index : Nat} {id : String}
    {rest : List (Nat × String)} (h : createdSurfaces vs = (index, id) :: rest) (fallback : String) :
    idOf vs fallback = id := by simp [idOf, h]

/-! ## The gate -/

/-- A batch without a structural problem is folded, and that is to apply its messages. -/
theorem foldBatch_eq_of_sound (acceptsOverlay : Bool) {batch : Json}
    (h : hasStructural (Validation.complete batch) = false) :
    ∃ envelopes ms, batch = .arr envelopes ∧ Message.decodeAll envelopes = .ok ms ∧
      foldBatch acceptsOverlay batch = .ok ((Store.empty acceptsOverlay).applyAll ms).1 := by
  obtain ⟨vs, ms, rfl, hms, himport⟩ :=
    (Store.empty acceptsOverlay).importBatch_eq_of_sound h
  exact ⟨vs, ms, rfl, hms, by rw [foldBatch, himport]⟩

/-- Nothing keeps a sound batch from being a design exactly if it creates one surface, whose id may name
a file and is the one that was asked for, and leaves it. -/
theorem gateProblems_eq_nil_iff {acceptsOverlay : Bool} {request : SaveRequest} :
    gateProblems acceptsOverlay request = .ok [] ↔ ∃ index id rest store,
      createdSurfaces request.messages = (index, id) :: rest ∧
      (distinctIds ((createdSurfaces request.messages).map Prod.snd)).length ≤ 1 ∧
      isValidId id = true ∧ requestedProblems request.id id = [] ∧
      foldBatch acceptsOverlay (.arr request.messages) = .ok store ∧
      Record.has store.live id = true := by
  constructor
  · intro h
    -- the checks in their order; a gate that is passed has passed each
    unfold gateProblems at h
    dsimp only at h
    split at h
    · cases h
    · rename_i index id rest hcreated
      split at h
      · cases h
      · rename_i hone
        split at h
        · cases h
        · rename_i hvalid
          split at h
          · cases h
          · rename_i hrequested
            split at h
            · cases h
            · rename_i store hfold
              exact ⟨index, id, rest, store, hcreated, Nat.not_lt.mp hone, by simpa using hvalid,
                hrequested, hfold, Validation.require_eq_nil_iff.mp (Except.ok.inj h)⟩
  · rintro ⟨index, id, rest, store, hcreated, hone, hvalid, hrequested, hfold, hthere⟩
    have hsome : ¬ 1 < (distinctIds (((index, id) :: rest).map Prod.snd)).length := by
      rw [← hcreated]
      omega
    simp only [gateProblems, hcreated, hsome, hvalid, hrequested, hfold, if_false, Bool.not_true,
      Bool.false_eq_true]
    exact congrArg Except.ok (Validation.require_eq_nil_iff.mpr hthere)

/-- Nothing keeps a batch from being saved if it is complete and the gate finds nothing. -/
theorem saveProblems_eq_nil_iff {acceptsOverlay : Bool} {request : SaveRequest} :
    saveProblems acceptsOverlay request = .ok [] ↔
      Validation.complete (.arr request.messages) = [] ∧
        gateProblems acceptsOverlay request = .ok [] := by
  unfold saveProblems
  cases Validation.complete (.arr request.messages) with
  | nil => simp
  | cons p ps => simp

/-! ## Accepted designs -/

/-- A design that saving would accept, under some id that is asked for or none.  What was saved is such a
design (`Service.exists_saveDesign`). -/
def Accepted (acceptsOverlay : Bool) (d : Design) : Prop :=
  ∃ requested, saveProblems acceptsOverlay ⟨requested, d.messages.map .obj⟩ = .ok [] ∧
    idOf (d.messages.map .obj) "" = d.id

/-- What the gate found in the batch of an accepted design. -/
theorem Accepted.exists_created {acceptsOverlay : Bool} {d : Design} (h : d.Accepted acceptsOverlay) :
    Validation.complete d.batch = [] ∧ ∃ index rest store,
      createdSurfaces (d.messages.map .obj) = (index, d.id) :: rest ∧
      (distinctIds ((createdSurfaces (d.messages.map .obj)).map Prod.snd)).length ≤ 1 ∧
      isValidId d.id = true ∧ foldBatch acceptsOverlay d.batch = .ok store ∧
      Record.has store.live d.id = true := by
  obtain ⟨requested, hsave, hid⟩ := h
  obtain ⟨hsound, hgate⟩ := saveProblems_eq_nil_iff.mp hsave
  obtain ⟨index, id, rest, store, hcreated, hone, hvalid, -, hfold, hthere⟩ :=
    gateProblems_eq_nil_iff.mp hgate
  obtain rfl : id = d.id := (idOf_of_createdSurfaces hcreated "").symm.trans hid
  exact ⟨hsound, index, rest, store, hcreated, hone, hvalid, hfold, hthere⟩

/-- What is known of the batch of an accepted design: it has no problem and decodes, its id may name a
file, one of its messages creates the surface of that id, and the surface is there at the end. -/
theorem Accepted.exists_fold {acceptsOverlay : Bool} {d : Design} (h : d.Accepted acceptsOverlay) :
    Validation.complete d.batch = [] ∧ isValidId d.id = true ∧
      ∃ ms preview, Message.decodeAll (d.messages.map .obj) = .ok ms ∧
        (∃ m ∈ ms, m.kind = .createSurface ∧ m.surface = d.id) ∧
        ((Store.empty acceptsOverlay).applyAll ms).1.surface? d.id = some preview ∧
        d.fold acceptsOverlay = .ok preview := by
  obtain ⟨hsound, index, rest, store, hcreated, -, hvalid, hfold, hthere⟩ := h.exists_created
  obtain ⟨vs, ms, hvs, hms, hstore⟩ :=
    foldBatch_eq_of_sound acceptsOverlay (hasStructural_of_eq_nil hsound)
  obtain rfl := Json.arr.inj hvs
  obtain rfl : store = ((Store.empty acceptsOverlay).applyAll ms).1 :=
    Except.ok.inj (hfold.symm.trans hstore)
  obtain ⟨x, hx⟩ := Option.isSome_iff_exists.mp hthere
  have hpreview : ((Store.empty acceptsOverlay).applyAll ms).1.surface? d.id = some x.surface := by
    rw [Store.surface?, hx, Option.map_some]
  refine ⟨hsound, hvalid, ms, x.surface, hms, ?_, hpreview, ?_⟩
  · -- the batch has a message that creates the surface, as the gate has seen
    obtain ⟨v, hv, hcreates⟩ := mem_createdSurfaces.mp (hcreated ▸ List.mem_cons_self)
    have hmem : v ∈ d.messages.map .obj := List.mem_of_getElem? hv
    obtain ⟨m, hm⟩ := Message.exists_decodeAll_iff.mp ⟨ms, hms⟩ v hmem
    exact ⟨m, (Message.mem_of_decodeAll hms).mpr ⟨v, hmem, hm⟩, creates_of_createdSurface? hcreates hm⟩
  · refine Fallible.bind_eq_ok.mpr ⟨_, hstore, ?_⟩
    rw [hpreview]
    rfl

/-- A design that was accepted can be kept. -/
theorem Accepted.keepable {acceptsOverlay : Bool} {d : Design} (h : d.Accepted acceptsOverlay) :
    d.Keepable := by
  obtain ⟨-, index, rest, -, hcreated, -, hvalid, -⟩ := h.exists_created
  exact ⟨hvalid, idOf_of_createdSurfaces hcreated⟩

/-- Whatever message of an accepted design creates a surface, it is that of the design. -/
theorem Accepted.surface_of_create {acceptsOverlay : Bool} {d : Design} (h : d.Accepted acceptsOverlay)
    {ms : List Message} (hms : Message.decodeAll (d.messages.map .obj) = .ok ms) {m : Message}
    (hm : m ∈ ms) (hkind : m.kind = .createSurface) : m.surface = d.id := by
  obtain ⟨-, index, rest, -, hcreated, hone, -⟩ := h.exists_created
  obtain ⟨v, hv, hdecode⟩ := (Message.mem_of_decodeAll hms).mp hm
  obtain ⟨j, hj⟩ := List.mem_iff_getElem?.mp hv
  have hother : (j, m.surface) ∈ createdSurfaces (d.messages.map .obj) :=
    mem_createdSurfaces.mpr ⟨v, hj, createdSurface?_of_decode hdecode hkind⟩
  have hown : (index, d.id) ∈ createdSurfaces (d.messages.map .obj) :=
    hcreated ▸ List.mem_cons_self
  exact eq_of_length_distinctIds hone (List.mem_map_of_mem hother) (List.mem_map_of_mem hown)

/-- A batch that may be saved is that of an accepted design. -/
theorem exists_accepted_of_saveProblems {acceptsOverlay : Bool} {request : SaveRequest}
    (h : saveProblems acceptsOverlay request = .ok []) :
    ∃ d : Design, d.Accepted acceptsOverlay ∧ d.batch = .arr request.messages ∧
      ∀ fallback, idOf request.messages fallback = d.id := by
  obtain ⟨hsound, hgate⟩ := saveProblems_eq_nil_iff.mp h
  obtain ⟨index, id, rest, -, hcreated, -⟩ := gateProblems_eq_nil_iff.mp hgate
  obtain ⟨vs, ms, hvs, hms, -⟩ :=
    foldBatch_eq_of_sound acceptsOverlay (hasStructural_of_eq_nil hsound)
  obtain rfl := Json.arr.inj hvs
  obtain ⟨messages, hmessages⟩ := Message.exists_objects_of_decodeAll hms
  have hid := idOf_of_createdSurfaces hcreated
  refine ⟨⟨id, messages⟩, ⟨request.id, ?_, ?_⟩, ?_, hid⟩
  · rw [← hmessages]
    exact h
  · rw [← hmessages, hid]
  · rw [batch, ← hmessages]

end Design

/-! ## Saving -/

/-- A request that does not pass the gate changes nothing. -/
theorem Service.saveDesign_of_refused (s : Service) {request : Design.SaveRequest}
    (h : Design.saveProblems s.acceptsOverlay request ≠ .ok []) : (s.saveDesign request).1 = s := by
  cases hproblems : Design.saveProblems s.acceptsOverlay request with
  | error fault => rw [saveDesign, hproblems]
  | ok problems =>
    cases problems with
    | cons p ps => rw [saveDesign, hproblems]
    | nil => exact absurd hproblems h

/-- One that passes has its batch kept as an accepted design, which is the answer. -/
theorem Service.exists_saveDesign (s : Service) {request : Design.SaveRequest}
    (h : Design.saveProblems s.acceptsOverlay request = .ok []) :
    ∃ d : Design, d.Accepted s.acceptsOverlay ∧ d.id = Design.idOf request.messages "" ∧
      d.batch = .arr request.messages ∧
      s.saveDesign request = ({ s with storage := s.storage.keep d },
        answerWith .atAssembly d.values 201 (s.encodeDesign d)) := by
  obtain ⟨d, hd, hbatch, hid⟩ := Design.exists_accepted_of_saveProblems h
  refine ⟨d, hd, (hid "").symm, hbatch, ?_⟩
  rw [saveDesign, h]
  dsimp only
  rw [hid, ← hbatch, s.storage.put_of_keepable hd.keepable]

end UiSurface
