import UiSurface.Proofs.Pushing

/-!
# One verdict on both sides

The service judges a batch before it pushes it, and a device judges each message just before it applies
it.  Both give the same problems.  A device skips what has a structural problem and nothing else, and
what it applies is refused for the state of its store only: never because the message does not decode,
and never because the root of a data model would be no object.  So nothing is skipped of a batch that
the service pushes.

Main lemmas: `Message.rootIsObject_of_sound` (a sound message writes an object at the root),
`Store.isStructural_of_mem_applyAll` (what such messages are refused for),
`live_batch_has_the_verdict_of_validation`.
-/

namespace UiSurface

/-! ## Refusals -/

/-- Whether a message was refused for what validation reports as a structural problem. -/
def Refusal.isStructural : Refusal → Bool
  | undecodable _ | rootNotObject _ => true
  | disposed | noSurface _ | overlayNotAccepted | emptyPath _ => false

/-- A message that, if it replaces a whole data model, replaces it by an object. -/
def Message.RootIsObject : Message → Prop
  | updateDataModel _ (.write path value) =>
    (ModelUpdate.write path value).replacesRoot = true → value.isObject = true
  | updateDataModel _ (.overlay _) | createSurface .. | updateComponents .. | deleteSurface _ => True

namespace Message

/-- A write is decoded from the path and the value of its body. -/
theorem write_of_decodeUpdate {body : Record Json} {path : Option String} {value : Json}
    (h : decodeUpdate body = .ok (.write path value)) :
    value = Json.field body "value" ∧
      ((ModelUpdate.write path value).replacesRoot = true → ReplacesRoot body) := by
  unfold decodeUpdate at h
  -- without a path the value is written at the root, and may be left out
  cases hpath : Json.field body "path" with
  | null =>
    rw [hpath] at h
    cases hvalue : Record.get? body "value" with
    | some v =>
      simp only [hvalue, Except.ok.injEq, ModelUpdate.write.injEq, Option.getD_some] at h
      obtain ⟨-, rfl⟩ := h
      refine ⟨by simp [Json.field, hvalue], fun _ => Or.inr ⟨hpath, ?_⟩⟩
      simp [Record.has, hvalue]
    | none =>
      cases hmodel : Record.get? body "dataModel" with
      | none =>
        simp only [hvalue, hmodel, Except.ok.injEq, ModelUpdate.write.injEq, Option.getD_none] at h
        obtain ⟨-, rfl⟩ := h
        refine ⟨by simp [Json.field, hvalue], fun _ => Or.inr ⟨hpath, ?_⟩⟩
        simp [Record.has, hmodel]
      | some overlay => cases overlay <;> simp [hvalue, hmodel] at h
  | str text =>
    simp only [hpath, Except.ok.injEq, ModelUpdate.write.injEq] at h
    obtain ⟨rfl, rfl⟩ := h
    refine ⟨rfl, fun hroot => Or.inl ?_⟩
    simpa [ModelUpdate.replacesRoot, hpath] using hroot
  | bool | num | arr | obj => simp [hpath] at h

/-- A message without a structural problem writes an object where it replaces a data model. -/
theorem rootIsObject_of_sound {place : String} {v : Json} {m : Message} (hm : decode v = .ok m)
    (hsound : ∀ p ∈ Validation.message place v, p.isStructural = false) : m.RootIsObject := by
  obtain ⟨members, rfl, hmembers⟩ := decode_eq_ok_iff.mp hm
  cases m with
  | updateDataModel id update =>
    cases update with
    | overlay entries => trivial
    | write path value =>
      intro hroot
      obtain ⟨body, -, hbody, hmessage⟩ := problems_of_decodeMembers hmembers place
      obtain ⟨-, -, hread⟩ := decodeBody_eq_ok_iff.mp hbody
      obtain ⟨rfl, hreplaces⟩ := write_of_decodeUpdate hread
      cases hobject : (Json.field body "value").isObject with
      | true => rfl
      | false =>
        -- the value would have been reported
        have hreported : ⟨Place.member (Place.member place "updateDataModel") "value", .rootValue⟩ ∈
            Validation.modelUpdate (Place.member place "updateDataModel") body :=
          rootValue_mem_modelUpdate_iff.mpr ⟨hreplaces hroot, hobject⟩
        rw [hmessage] at hsound
        cases hsound _ (List.mem_append_right _ hreported)
  | createSurface | updateComponents | deleteSurface => trivial

end Message

namespace Store

/-- Data models are not refused for their structure. -/
theorem isStructural_of_updatedModel {acceptsOverlay : Bool} {model : DataModel} {id : String}
    {update : ModelUpdate} (hroot : (Message.updateDataModel id update).RootIsObject)
    {reason : Refusal} (h : updatedModel acceptsOverlay model update = .error reason) :
    reason.isStructural = false := by
  cases update with
  | overlay entries =>
    simp only [updatedModel] at h
    split at h
    · cases h
    · cases h
      rfl
  | write path value =>
    simp only [updatedModel] at h
    split at h
    · rename_i hpath
      have hobject := hroot hpath
      cases value with
      | obj members => cases h
      | null | bool | num | str | arr => cases hobject
    · split at h
      · cases h
        rfl
      · cases h

theorem isStructural_of_effect {s : Store} {m : Message} (hroot : m.RootIsObject) {reason : Refusal}
    (h : s.effect m = .error reason) : reason.isStructural = false := by
  cases m with
  | createSurface id catalogId sendDataModel tokens => cases h
  | updateComponents id cs =>
    simp only [effect] at h
    split at h
    · cases h
      rfl
    · cases h
  | updateDataModel id update =>
    simp only [effect] at h
    split at h
    · cases h
      rfl
    · split at h
      · rename_i hupdated
        cases h
        exact isStructural_of_updatedModel hroot hupdated
      · cases h
  | deleteSurface id =>
    simp only [effect] at h
    split at h
    · cases h
      rfl
    · cases h

/-- Messages that write objects at the root are refused for the state of the store only. -/
theorem isStructural_of_mem_applyAll {s : Store} {ms : List Message}
    (hroot : ∀ m ∈ ms, m.RootIsObject) {id : Option String} {reason : Refusal}
    (h : .refused id reason ∈ (s.applyAll ms).2) : reason.isStructural = false := by
  induction ms generalizing s with
  | nil => cases h
  | cons m ms ih =>
    obtain ⟨hm, hrest⟩ := List.forall_mem_cons.mp hroot
    simp only [applyAll, List.mem_cons] at h
    rcases h with hfirst | hlater
    · -- refused because the store is disposed of, or by the effect
      unfold apply at hfirst
      split at hfirst
      · cases hfirst
        rfl
      · split at hfirst
        · rename_i heffect
          cases hfirst
          exact isStructural_of_effect hm heffect
        · cases hfirst
    · exact ih hrest hlater

/-- What is kept of a live batch writes objects at the root. -/
theorem rootIsObject_of_kept {index : Nat} {vs : List Json} {ms : List Message}
    (hms : Message.decodeAll (keptFrom index vs) = .ok ms) : ∀ m ∈ ms, m.RootIsObject := by
  intro m hm
  obtain ⟨v, hv, hdecode⟩ := (Message.mem_of_decodeAll hms).mp hm
  obtain ⟨i, -, hsound⟩ := mem_keptFrom.mp hv
  exact Message.rootIsObject_of_sound hdecode (hasStructural_eq_false_iff.mp hsound)

end Store

/-! ## Pushing -/

namespace Service

/-- A batch is refused exactly if it has a structural problem. -/
theorem status_pushMessages_eq_iff (s : Service) (request : Body.Push) :
    (s.pushMessages request).2.status = 422 ↔
      hasStructural (Validation.incremental (.arr request.messages)) = true := by
  unfold pushMessages
  dsimp only
  split
  · rename_i h
    exact ⟨fun _ => h, fun _ => rfl⟩
  · rename_i h
    refine ⟨fun hstatus => ?_, fun hbroken => absurd hbroken h⟩
    split at hstatus
    · simp only [pushToOne] at hstatus
      split at hstatus <;> cases hstatus
    · cases hstatus

/-- Whoever is sent something is sent the frame of the batch. -/
theorem sent_pushMessages (s : Service) (request : Body.Push) :
    ∃ sockets : List String, (s.pushMessages request).1.wire.sent =
      s.wire.sent ++ sockets.map fun socket => (socket, Frame.messages request.messages) := by
  unfold pushMessages
  dsimp only
  split
  · exact ⟨[], by simp⟩
  · split
    · rename_i id _
      -- one device: nobody is there, its socket does not work, or it is sent the frame
      simp only [pushToOne, Registry.push]
      cases Record.get? s.registry id with
      | none => exact ⟨[], by simp⟩
      | some device =>
        cases hworks : s.wire.works device.socket with
        | false => exact ⟨[], by simp [Registry.deliver, hworks]⟩
        | true => exact ⟨[device.socket], by simp [Registry.deliver, hworks, Wire.send]⟩
    · refine ⟨(s.registry.filter fun e => s.wire.works e.2.socket).map fun e => e.2.socket, ?_⟩
      simp only [pushToAll, Registry.pushAll, Registry.deliverAll_wire, List.map_map]
      rfl

end Service

/-! ## The verdict -/

/-- A device gives the verdict of validation.  A live batch has the problems of validation, whatever it
is.  Of a batch that is not empty, the messages that are skipped are those with a structural problem,
each by its index with its problems; every other message has its outcome, the store is the one that they
make of it in order, and none is refused for a structural problem.  So a batch that the service pushes
is skipped by no device, not even in part: what goes over the wire is the frame of the batch, and a
client that takes this frame skips nothing.  This holds of every store. -/
theorem live_batch_has_the_verdict_of_validation :
    (∀ (s : Store) (batch : Json),
      (s.applyLive batch).2.problems = Validation.incremental batch) ∧
    (∀ (s : Store) (vs : List Json), vs ≠ [] →
      (s.applyLive (.arr vs)).2.skipped = (vs.zipIdx.filter Validation.isBroken).map
        (fun e => (e.2, Validation.problemsAt e)) ∧
      (s.applyLive (.arr vs)).2.outcomes.length + (s.applyLive (.arr vs)).2.skipped.length =
        vs.length ∧
      s.applyValues ((vs.zipIdx.filter fun e => !Validation.isBroken e).map Prod.fst) =
        ((s.applyLive (.arr vs)).1, .ok (s.applyLive (.arr vs)).2.outcomes) ∧
      ∀ id reason, .refused id reason ∈ (s.applyLive (.arr vs)).2.outcomes →
        reason.isStructural = false) ∧
    ∀ (service : Service) (request : Body.Push), (service.pushMessages request).2.status ≠ 422 →
      (∀ s : Store, (s.applyLive (.arr request.messages)).2.skipped = [] ∧
        (s.applyLive (.arr request.messages)).2.outcomes.length = request.messages.length) ∧
      ∃ frame : Record Json,
        (∃ sockets : List String, (service.pushMessages request).1.wire.sent =
          service.wire.sent ++ sockets.map fun socket => (socket, Json.toText (.obj frame))) ∧
        ∀ c : Client, ∃ report, (c.handle frame).2 = some report ∧ report.skipped = [] ∧
          report.outcomes.length = request.messages.length ∧
          (c.handle frame).1.store = (c.store.applyLive (.arr request.messages)).1 := by
  refine ⟨Store.problems_applyLive, ?_, ?_⟩
  · intro s vs hvs
    obtain ⟨ms, hms⟩ := Store.exists_decodeAll_keptFrom 0 vs
    have hlength : ms.length = (Store.keptFrom 0 vs).length := by
      simpa using (congrArg List.length (Message.decodeAll_eq_ok_iff.mp hms)).symm
    rw [s.applyLive_eq hvs hms]
    refine ⟨rfl, ?_, s.applyValues_of_decodeAll hms, fun id reason hrefused => ?_⟩
    · rw [Store.length_applyAll, hlength, Store.length_keptFrom_add_length_skippedFrom]
    · exact Store.isStructural_of_mem_applyAll (Store.rootIsObject_of_kept hms) hrefused
  · intro service request hstatus
    -- the push was not rejected, so no message has a structural problem
    have hsound : hasStructural (Validation.incremental (.arr request.messages)) = false :=
      Bool.eq_false_iff.mpr fun hbroken =>
        hstatus ((service.status_pushMessages_eq_iff request).mpr hbroken)
    -- then a client skips none of them, whatever its store
    have hwhole : ∀ s : Store, (s.applyLive (.arr request.messages)).2.skipped = [] ∧
        (s.applyLive (.arr request.messages)).2.outcomes.length = request.messages.length := by
      intro s
      obtain ⟨vs, ms, hvs, hms, hlive⟩ := s.applyLive_eq_of_sound hsound
      obtain rfl := Json.arr.inj hvs
      have hlength : ms.length = request.messages.length := by
        simpa using (congrArg List.length (Message.decodeAll_eq_ok_iff.mp hms)).symm
      rw [hlive]
      exact ⟨rfl, by rw [Store.length_applyAll, hlength]⟩
    refine ⟨hwhole, [("type", .str "a2ui_messages"), ("messages", .arr request.messages)],
      service.sent_pushMessages request, fun c => ?_⟩
    obtain ⟨hskipped, houtcomes⟩ := hwhole c.store
    exact ⟨_, rfl, hskipped, houtcomes, rfl⟩

/-- Of four messages a device skips the two that are broken, one of them for a text at the root.  A batch
without these two is pushed, and then no device skips any of it. -/
theorem two_of_four_messages_skipped :
    let tile : Record Json := [("surfaceId", .str "tile")]
    let create : Json := .obj [("createSurface", .obj tile)]
    let note : Json := .str "note"
    let root : Json := .obj [("updateDataModel", .obj (tile ++ [("value", .str "x")]))]
    let branch : Json :=
      .obj [("updateDataModel", .obj (tile ++ [("path", .str "/x"), ("value", .str "x")]))]
    let s := Store.empty false
    let service := Service.new (.shelf []) false ⟨2026, 10, 19, 15, 7⟩ ""
    [create, note, root, branch] ≠ [] ∧
      (s.applyLive (.arr [create, note, root, branch])).2.skipped =
        [(1, [⟨"messages[1]", .messageNotObject⟩]),
          (2, [⟨"messages[2].updateDataModel.value", .rootValue⟩])] ∧
      s.applyValues [create, branch] =
        ((s.applyLive (.arr [create, note, root, branch])).1,
          .ok (s.applyLive (.arr [create, note, root, branch])).2.outcomes) ∧
      (service.pushMessages ⟨none, [create, branch]⟩).2.status ≠ 422 ∧
      ∀ t : Store, (t.applyLive (.arr [create, branch])).2.skipped = [] ∧
        (t.applyLive (.arr [create, branch])).2.outcomes.length = 2 := by
  intro tile create note root branch s service
  have hsome : [create, note, root, branch] ≠ [] := List.cons_ne_nil _ _
  have hpushed : (service.pushMessages ⟨none, [create, branch]⟩).2.status ≠ 422 := by decide +kernel
  obtain ⟨-, hlive, hpush⟩ := live_batch_has_the_verdict_of_validation
  obtain ⟨hskipped, -, happlied, -⟩ := hlive s [create, note, root, branch] hsome
  have hbroken : [create, note, root, branch].zipIdx.filter Validation.isBroken =
      [(note, 1), (root, 2)] := by decide +kernel
  have hkept : ([create, note, root, branch].zipIdx.filter fun e => !Validation.isBroken e).map
      Prod.fst = [create, branch] := by decide +kernel
  refine ⟨hsome, ?_, ?_, hpushed, (hpush service ⟨none, [create, branch]⟩ hpushed).1⟩
  · rw [hskipped, hbroken]
    decide +kernel
  · rw [← hkept, happlied]

end UiSurface
