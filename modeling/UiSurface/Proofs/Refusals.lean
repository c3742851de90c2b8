import UiSurface.Proofs.Verdicts

/-!
# Why a message is refused

Of values that are applied one after the other, those that do not decode are refused, each for itself:
the others act on the store as if they had come alone.  Only objects can be refused so; a value that is
no object ends the run, unless the store is disposed of and refuses everything.

An envelope without a structural problem is refused for one of three reasons, each told by the envelope
and by what the store shows: there is no surface to change, the older form of a data model update is
not accepted, or the path names no key.

Main lemmas: `applyValue_of_taken` (one value), `undecodable_values_are_inert`; `effect_eq_error_iff`
(one message), `sound_messages_refused_for_three_reasons`.
-/

namespace UiSurface

/-! ## What does not decode -/

/-- Whether a value decodes. -/
def Message.decodes (v : Json) : Bool := (Message.decode v).toOption.isSome

theorem Message.decodes_eq_false_iff {v : Json} :
    decodes v = false ↔ ∃ fault, decode v = .error fault := by
  unfold decodes
  cases decode v <;> simp [Except.toOption]

namespace Store

/-- A value is taken by every store if it is an object, and by a store that is disposed of in any case.
If it does not decode it is refused, and the store stays. -/
theorem applyValue_of_taken {s : Store} {v : Json} (h : s.disposed = true ∨ v.isObject = true) :
    ∃ t outcome, s.applyValue v = .ok (t, outcome) ∧ t.disposed = s.disposed ∧
      ∀ fault, Message.decode v = .error fault → t = s ∧
        outcome = .refused none (if s.disposed then .disposed else .undecodable fault) := by
  -- a store that is disposed of refuses everything alike, and looks at nothing
  cases hs : s.disposed with
  | true =>
    have happly : s.applyValue v = .ok (s, .refused none .disposed) := by
      cases v <;> simp [applyValue, applyMembers, hs]
    exact ⟨s, _, happly, hs, fun _ _ => ⟨rfl, rfl⟩⟩
  | false =>
    cases v with
    | obj members =>
      cases hdecode : Message.decodeMembers members with
      | ok m =>
        refine ⟨(s.apply m).1, (s.apply m).2, ?_, ?_, fun fault hfault => ?_⟩
        · rw [applyValue, applyMembers_of_decode s hdecode]
        · rw [(s.sameSettings_apply m).2, hs]
        · rw [Message.decode, hdecode] at hfault
          cases hfault
      | error fault =>
        refine ⟨s, .refused none (.undecodable fault), ?_, hs, fun fault' hfault => ⟨rfl, ?_⟩⟩
        · simp [applyValue, applyMembers, hs, hdecode]
        · rw [Message.decode, hdecode] at hfault
          obtain rfl := Except.error.inj hfault
          simp
    | null | bool | num | str | arr =>
      rcases h with h | h
      · rw [hs] at h
        cases h
      · cases h

/-- Values that are taken have one outcome each.  Those that do not decode are refused, and the others
act as they would alone. -/
theorem applyValues_of_taken {s : Store} {vs : List Json}
    (h : s.disposed = true ∨ ∀ v ∈ vs, v.isObject = true) :
    ∃ outcomes, (s.applyValues vs).2 = .ok outcomes ∧ outcomes.length = vs.length ∧
      (∀ e ∈ vs.zip outcomes, ∀ fault, Message.decode e.1 = .error fault →
        e.2 = .refused none (if s.disposed then .disposed else .undecodable fault)) ∧
      s.applyValues (vs.filter Message.decodes) = ((s.applyValues vs).1,
        .ok (((vs.zip outcomes).filter fun e => Message.decodes e.1).map Prod.snd)) := by
  induction vs generalizing s with
  | nil => exact ⟨[], rfl, rfl, nofun, rfl⟩
  | cons v vs ih =>
    have hv : s.disposed = true ∨ v.isObject = true := h.imp_right fun hall => hall v (by simp)
    obtain ⟨t, outcome, happly, hdisposed, hfault⟩ := applyValue_of_taken hv
    have hvs : t.disposed = true ∨ ∀ w ∈ vs, w.isObject = true := by
      rw [hdisposed]
      exact h.imp_right fun hall w hw => hall w (by simp [hw])
    obtain ⟨outcomes, houtcomes, hlength, hrefused, hfiltered⟩ := ih hvs
    have hrun : s.applyValues (v :: vs) = ((t.applyValues vs).1, .ok (outcome :: outcomes)) := by
      simp [applyValues, happly, houtcomes, Except.map]
    refine ⟨outcome :: outcomes, by rw [hrun], by simp [hlength], ?_, ?_⟩
    · rw [List.zip_cons_cons, List.forall_mem_cons, ← hdisposed]
      exact ⟨fun fault hv => hdisposed ▸ (hfault fault hv).2, hrefused⟩
    · rw [hrun, List.zip_cons_cons, List.filter_cons, List.filter_cons]
      -- a value that does not decode left the store alone, so it may be left out
      cases hdecodes : Message.decodes v with
      | true => simp [applyValues, happly, hfiltered, Except.map]
      | false =>
        obtain ⟨fault, hundecodable⟩ := Message.decodes_eq_false_iff.mp hdecodes
        obtain ⟨rfl, -⟩ := hfault fault hundecodable
        simpa using hfiltered

/-- A value that is no object ends the run of a store that is not disposed of; what was applied before it
stays applied. -/
theorem applyValues_of_not_object {s : Store} (hs : s.disposed = false) {before after : List Json}
    (hbefore : ∀ w ∈ before, w.isObject = true) {v : Json} (hv : v.isObject = false) :
    s.applyValues (before ++ v :: after) = ((s.applyValues before).1, .error ⟨v.kindName⟩) := by
  induction before generalizing s with
  | nil =>
    have happly : s.applyValue v = .error ⟨v.kindName⟩ := by
      cases v <;> simp_all [applyValue, Json.isObject, Json.members?]
    simp [applyValues, happly]
  | cons w before ih =>
    obtain ⟨hw, hrest⟩ := List.forall_mem_cons.mp hbefore
    obtain ⟨t, outcome, happly, hdisposed, -⟩ := applyValue_of_taken (s := s) (Or.inr hw)
    simp [applyValues, happly, ih (hdisposed.trans hs) hrest, Except.map]

/-- The values of a run are all taken, or one of them is the first that is no object. -/
theorem taken_or_exists_not_object (s : Store) (vs : List Json) :
    (s.disposed = true ∨ ∀ v ∈ vs, v.isObject = true) ∨
    (s.disposed = false ∧ ∃ before v after, vs = before ++ v :: after ∧
      (∀ w ∈ before, w.isObject = true) ∧ v.isObject = false) := by
  cases hs : s.disposed with
  | true => exact Or.inl (Or.inl rfl)
  | false =>
    cases hfind : vs.find? fun v => !v.isObject with
    | none =>
      have hall := List.find?_eq_none.mp hfind
      exact Or.inl (Or.inr fun v hv => by simpa using hall v hv)
    | some v =>
      obtain ⟨hv, before, after, hsplit, hbefore⟩ := List.find?_eq_some_iff_append.mp hfind
      exact Or.inr ⟨rfl, before, v, after, hsplit, fun w hw => by simpa using hbefore w hw,
        by simpa using hv⟩

/-- Values that do not decode are inert.  A run of values ends without a fault exactly if the store is
disposed of or every value is an object.  Then each value has its outcome, those that do not decode are
refused, and the store is the one that the others make of it alone, with the outcomes that they have
alone.  A value that is no object ends the run of any other store with a fault; what comes before it is
applied as just said. -/
theorem undecodable_values_are_inert (s : Store) (vs : List Json) :
    ((∃ outcomes, (s.applyValues vs).2 = .ok outcomes) ↔
      s.disposed = true ∨ ∀ v ∈ vs, v.isObject = true) ∧
    (∀ outcomes, (s.applyValues vs).2 = .ok outcomes →
      outcomes.length = vs.length ∧
      (∀ e ∈ vs.zip outcomes, ∀ fault, Message.decode e.1 = .error fault →
        e.2 = .refused none (if s.disposed then .disposed else .undecodable fault)) ∧
      s.applyValues (vs.filter Message.decodes) = ((s.applyValues vs).1,
        .ok (((vs.zip outcomes).filter fun e => Message.decodes e.1).map Prod.snd))) ∧
    (s.disposed = false → ∀ before v after, vs = before ++ v :: after →
      (∀ w ∈ before, w.isObject = true) → v.isObject = false →
      s.applyValues vs = ((s.applyValues before).1, .error ⟨v.kindName⟩)) := by
  have htaken : (∃ outcomes, (s.applyValues vs).2 = .ok outcomes) ↔
      s.disposed = true ∨ ∀ v ∈ vs, v.isObject = true := by
    constructor
    · rintro ⟨outcomes, houtcomes⟩
      rcases s.taken_or_exists_not_object vs with htaken | ⟨hs, before, v, after, rfl, hbefore, hv⟩
      · exact htaken
      · rw [applyValues_of_not_object hs hbefore hv] at houtcomes
        cases houtcomes
    · intro h
      obtain ⟨outcomes, houtcomes, -⟩ := applyValues_of_taken h
      exact ⟨outcomes, houtcomes⟩
  refine ⟨htaken, fun outcomes houtcomes => ?_, ?_⟩
  · -- the outcomes are those of the run, so there is no choice between them
    obtain ⟨outcomes', hsame, hrest⟩ := applyValues_of_taken (htaken.mp ⟨outcomes, houtcomes⟩)
    obtain rfl := Except.ok.inj (hsame.symm.trans houtcomes)
    exact hrest
  · rintro hs before v after rfl hbefore hv
    exact applyValues_of_not_object hs hbefore hv

/-- Between two messages that decode come one of an unknown kind and one without a surface; both are
refused, and the two are applied as they would be alone. -/
theorem unknown_and_nameless_are_inert :
    let create : Json := .obj [("createSurface", .obj [("surfaceId", .str "tile")])]
    let note : Json := .obj [("note", .null)]
    let nameless : Json := .obj [("deleteSurface", .obj [("surfaceId", .str "")])]
    let update : Json := .obj [("updateDataModel", .obj [("surfaceId", .str "tile"),
      ("value", .obj [("x", .null)])])]
    let values : List Json := [create, note, nameless, update]
    let outcomes : List Outcome := [.accepted "tile" [], .refused none (.undecodable .unknownKind),
      .refused none (.undecodable (.noSurfaceId .deleteSurface)), .accepted "tile" []]
    ((empty false).applyValues values).2 = .ok outcomes ∧ outcomes.length = values.length ∧
      (empty false).applyValues [create, update] = (((empty false).applyValues values).1,
        .ok [.accepted "tile" [], .accepted "tile" []]) := by
  intro create note nameless update values outcomes
  have houtcomes : ((empty false).applyValues values).2 = .ok outcomes := by rfl
  obtain ⟨hlength, -, halone⟩ :=
    (undecodable_values_are_inert (empty false) values).2.1 outcomes houtcomes
  exact ⟨houtcomes, hlength, halone⟩

/-- A number among the envelopes ends the run: the surface before it is created, and the message behind
it that would delete the surface is not applied. -/
theorem number_ends_the_run :
    let create : Json := .obj [("createSurface", .obj [("surfaceId", .str "tile")])]
    let delete : Json := .obj [("deleteSurface", .obj [("surfaceId", .str "tile")])]
    Message.decode (.num (.int 7)) = .error .unknownKind ∧
      ((empty true).applyValues [create, .num (.int 7), delete]).2 = .error ⟨"int"⟩ ∧
      ((empty true).applyValues [create, .num (.int 7), delete]).1.ids = ["tile"] ∧
      ((empty true).applyValues [create, delete]).1.ids = [] := by
  intro create delete
  refine ⟨rfl, rfl, by decide +kernel, by decide +kernel⟩

end Store

/-! ## Paths without a key -/

/-- All pieces of a list are empty exactly if there are only separators in it. -/
theorem Text.forall_mem_splitAt_eq_nil_iff {α : Type} [DecidableEq α] (sep : α) (cs : List α) :
    (∀ piece ∈ splitAt sep cs, piece = []) ↔ ∀ c ∈ cs, c = sep := by
  induction cs with
  | nil => simp [splitAt]
  | cons c cs ih =>
    rw [List.forall_mem_cons, ← ih, splitAt]
    by_cases hc : c = sep
    · simp [hc]
    · rw [if_neg hc]
      split <;> simp [hc]

/-- A path names no key exactly if it holds nothing but slashes. -/
theorem Path.segments_eq_nil_iff (path : String) :
    segments path = [] ↔ ∀ c ∈ path.toList, c = '/' := by
  rw [← Text.forall_mem_splitAt_eq_nil_iff, segments, List.map_eq_nil_iff, List.filter_eq_nil_iff]
  simp

/-! ## Without a structural problem -/

theorem Json.isObject_iff {v : Json} : v.isObject = true ↔ ∃ members, v = .obj members := by
  cases v <;> simp [isObject, members?]

/-- The older form of a data model update: an overlay, and neither a path nor a value. -/
def Message.IsOlderForm (body : Record Json) : Prop :=
  Json.field body "path" = .null ∧ Record.has body "value" = false ∧
    Record.has body "dataModel" = true

/-- A change of a data model is decoded to what the form of its body says. -/
theorem Message.decodeUpdate_cases {body : Record Json} {update : ModelUpdate}
    (h : decodeUpdate body = .ok update) :
    (IsOlderForm body ∧ ∃ entries, update = .overlay entries) ∨
    (¬ IsOlderForm body ∧ Json.field body "path" = .null ∧ ∃ value, update = .write none value) ∨
    (¬ IsOlderForm body ∧ ∃ path value, Json.field body "path" = .str path ∧
      update = .write (some path) value) := by
  unfold decodeUpdate at h
  unfold IsOlderForm
  -- the same order of questions as decoding asks them
  cases hpath : Json.field body "path" with
  | null =>
    rw [hpath] at h
    cases hvalue : Record.get? body "value" with
    | some v =>
      simp only [hvalue, Except.ok.injEq] at h
      exact Or.inr (Or.inl ⟨by simp [Record.has, hvalue], rfl, _, h.symm⟩)
    | none =>
      cases hmodel : Record.get? body "dataModel" with
      | none =>
        simp only [hvalue, hmodel, Except.ok.injEq] at h
        exact Or.inr (Or.inl ⟨by simp [Record.has, hmodel], rfl, _, h.symm⟩)
      | some overlay =>
        cases overlay with
        | obj entries =>
          simp only [hvalue, hmodel, Except.ok.injEq] at h
          exact Or.inl ⟨by simp [Record.has, hvalue, hmodel], entries, h.symm⟩
        | null | bool | num | str | arr => simp [hvalue, hmodel] at h
  | str path =>
    simp only [hpath, Except.ok.injEq] at h
    exact Or.inr (Or.inr ⟨by simp, path, _, rfl, h.symm⟩)
  | bool | num | arr | obj => simp [hpath] at h

namespace Store

/-- Why a store refuses a message that has no structural problem.  First of all there must be a surface
to change. -/
inductive Objection (s : Store) (kind : MessageKind) (id : String) (body : Record Json) :
    Refusal → Prop
  /-- there is no surface, and none is created -/
  | noSurface (hkind : kind ≠ .createSurface) (hnone : s.surface? id = none) :
      Objection s kind id body (.noSurface id)
  /-- the older form of a data model update is not accepted -/
  | overlay (hsome : s.surface? id ≠ none) (hkind : kind = .updateDataModel)
      (hform : Message.IsOlderForm body) (haccepts : s.acceptsOverlay = false) :
      Objection s kind id body .overlayNotAccepted
  /-- the path is not that of the root, and has nothing but slashes -/
  | emptyPath (path : String) (hsome : s.surface? id ≠ none) (hkind : kind = .updateDataModel)
      (hpath : Json.field body "path" = .str path) (hroot : path ≠ "/")
      (hslashes : ∀ c ∈ path.toList, c = '/') : Objection s kind id body (.emptyPath path)

section Objection

variable {s : Store} {kind : MessageKind} {id : String} {body : Record Json} {reason : Refusal}

/-- Where there is no surface there is nothing else to object. -/
theorem objection_iff_of_absent (hkind : kind ≠ .createSurface) (hnone : s.surface? id = none) :
    Objection s kind id body reason ↔ reason = .noSurface id := by
  constructor
  · rintro (⟨-, -⟩ | ⟨hsome, -, -, -⟩ | ⟨path, hsome, -, -, -, -⟩)
    · rfl
    · exact absurd hnone hsome
    · exact absurd hnone hsome
  · rintro rfl
    exact .noSurface hkind hnone

/-- Where there is a surface, only a change of its data model can be objected to. -/
theorem objection_iff_of_present {x : Surface} (hsome : s.surface? id = some x) :
    Objection s kind id body reason ↔ kind = .updateDataModel ∧
      ((reason = .overlayNotAccepted ∧ Message.IsOlderForm body ∧ s.acceptsOverlay = false) ∨
      ∃ path, reason = .emptyPath path ∧ Json.field body "path" = .str path ∧ path ≠ "/" ∧
        ∀ c ∈ path.toList, c = '/') := by
  have hthere : s.surface? id ≠ none := by simp [hsome]
  constructor
  · rintro (⟨-, hnone⟩ | ⟨-, hkind, hform, haccepts⟩ | ⟨path, -, hkind, hpath, hroot, hslashes⟩)
    · exact absurd hnone hthere
    · exact ⟨hkind, Or.inl ⟨rfl, hform, haccepts⟩⟩
    · exact ⟨hkind, Or.inr ⟨path, rfl, hpath, hroot, hslashes⟩⟩
  · rintro ⟨hkind, ⟨rfl, hform, haccepts⟩ | ⟨path, rfl, hpath, hroot, hslashes⟩⟩
    · exact .overlay hthere hkind hform haccepts
    · exact .emptyPath path hthere hkind hpath hroot hslashes

/-- A value is written below the root unless the path names no key. -/
theorem updatedModel_path_eq_error_iff {acceptsOverlay : Bool} {model : DataModel} {path : String}
    {value : Json} (hroot : path ≠ "/") :
    updatedModel acceptsOverlay model (.write (some path) value) = .error reason ↔
      reason = .emptyPath path ∧ ∀ c ∈ path.toList, c = '/' := by
  rw [← Path.segments_eq_nil_iff]
  by_cases hkeys : Path.segments path = []
  · have hrefused : updatedModel acceptsOverlay model (.write (some path) value) =
        .error (.emptyPath path) := by simp [updatedModel, hroot, hkeys]
    rw [hrefused, Except.error.injEq, eq_comm]
    simp [hkeys]
  · simp [updatedModel, hroot, hkeys]

/-- A change of a data model that would put an object at the root fails for its older form or for its
path. -/
theorem updatedModel_eq_error_iff {acceptsOverlay : Bool} {model : DataModel} {update : ModelUpdate}
    (hread : Message.decodeUpdate body = .ok update)
    (hobject : (Message.updateDataModel id update).RootIsObject) :
    updatedModel acceptsOverlay model update = .error reason ↔
      (reason = .overlayNotAccepted ∧ Message.IsOlderForm body ∧ acceptsOverlay = false) ∨
      ∃ path, reason = .emptyPath path ∧ Json.field body "path" = .str path ∧ path ≠ "/" ∧
        ∀ c ∈ path.toList, c = '/' := by
  rcases Message.decodeUpdate_cases hread with ⟨hform, entries, rfl⟩ |
    ⟨hform, hpath, value, rfl⟩ | ⟨hform, path, value, hpath, rfl⟩
  · cases acceptsOverlay with
    | true => simp [updatedModel, hform.1]
    | false =>
      constructor
      · rintro ⟨⟩
        exact Or.inl ⟨rfl, hform, rfl⟩
      · rintro (⟨rfl, -, -⟩ | ⟨path, -, hpath, -, -⟩)
        · rfl
        · rw [hform.1] at hpath
          cases hpath
  · -- the root is replaced
    obtain ⟨members, rfl⟩ := Json.isObject_iff.mp (hobject rfl)
    simp [updatedModel, hform, hpath]
  · by_cases hroot : path = "/"
    · subst hroot
      obtain ⟨members, rfl⟩ := Json.isObject_iff.mp (hobject rfl)
      simp [updatedModel, hform, hpath]
    · rw [updatedModel_path_eq_error_iff hroot]
      simp only [hform, hpath, Json.str.injEq, false_and, and_false, false_or]
      constructor
      · rintro ⟨rfl, hslashes⟩
        exact ⟨path, rfl, rfl, hroot, hslashes⟩
      · rintro ⟨_, rfl, rfl, -, hslashes⟩
        exact ⟨rfl, hslashes⟩

/-- A message that would put no other value than an object at the root is refused exactly for what there
is to object. -/
theorem effect_eq_error_iff {m : Message} (hread : m.ReadFrom body) (hobject : m.RootIsObject) :
    s.effect m = .error reason ↔ Objection s m.kind m.surface body reason := by
  cases hsurface : s.surface? m.surface with
  | none =>
    cases m with
    | createSurface id catalogId sendDataModel tokens =>
      constructor
      · rintro ⟨⟩
      · rintro (⟨hkind, -⟩ | ⟨-, ⟨⟩, -, -⟩ | ⟨-, -, ⟨⟩, -, -, -⟩)
        exact absurd rfl hkind
    | updateComponents id cs | updateDataModel id update | deleteSurface id =>
      -- nothing but a creation is meant for a surface that is not there
      rw [objection_iff_of_absent (by simp [Message.kind]) hsurface]
      simp only [Message.surface] at hsurface ⊢
      simp [effect, hsurface, eq_comm]
  | some x =>
    rw [objection_iff_of_present hsurface]
    cases m with
    | createSurface id catalogId sendDataModel tokens => simp [effect, Message.kind]
    | updateComponents id cs | deleteSurface id =>
      simp only [Message.surface] at hsurface
      simp [effect, hsurface, Message.kind]
    | updateDataModel id update =>
      simp only [Message.surface] at hsurface
      have hmodel : updatedModel s.acceptsOverlay x.model update = .error reason ↔ _ :=
        updatedModel_eq_error_iff hread hobject
      rw [← hmodel]
      simp only [effect, hsurface, Message.kind, true_and]
      cases updatedModel s.acceptsOverlay x.model update <;> simp

end Objection

/-- An envelope without a structural problem is refused exactly for what there is to object, and it is
accepted if there is nothing.  It carries one kind of message, whose body names the surface.  It is
refused if that surface does not exist and is not to be created; if it does exist, a change of its data
model is refused in the older form where the store does not accept that, and at a path that is not `/`
and has nothing but slashes.  This holds of every store that is not disposed of. -/
theorem sound_messages_refused_for_three_reasons {s : Store} (hs : s.disposed = false)
    {place : String} {v : Json} (hsound : hasStructural (Validation.message place v) = false) :
    ∃ members kind body id, v = .obj members ∧ MessageKind.carriedBy members = [kind] ∧
      Record.get? members kind.name = some (.obj body) ∧
      Record.get? body "surfaceId" = some (.str id) ∧
      s.applyValue v = .ok (s.applyMembers members) ∧
      (∀ about reason, (s.applyMembers members).2 = .refused about reason ↔
        about = some id ∧ Objection s kind id body reason) ∧
      ((∀ reason, ¬ Objection s kind id body reason) →
        ∃ cautions, (s.applyMembers members).2 = .accepted id cautions) := by
  rw [hasStructural_eq_false_iff] at hsound
  obtain ⟨m, hm⟩ := Message.exists_decode_of_sound hsound
  obtain ⟨members, rfl, hmembers⟩ := Message.decode_eq_ok_iff.mp hm
  obtain ⟨hkind, body, hbody, hid, hread⟩ := Message.decodeMembers_eq_ok_iff.mp hmembers
  have hname : Record.get? body "surfaceId" = some (.str m.surface) :=
    (Json.field_eq_iff (by simp)).mp (Json.name?_eq_some_iff.mp hid).1
  -- what the message carries is read from the body, so its refusals are objections to the body
  have hobjection : ∀ reason, s.effect m = .error reason ↔
      Objection s m.kind m.surface body reason :=
    fun _ => effect_eq_error_iff hread (Message.rootIsObject_of_sound hm hsound)
  refine ⟨members, m.kind, body, m.surface, rfl, hkind, hbody, hname, rfl, ?_⟩
  simp only [← hobjection, applyMembers_of_decode s hmembers, apply, hs, Bool.false_eq_true, if_false]
  cases s.effect m with
  | error reason => simp [eq_comm]
  | ok r => simp

/-- Where there is a tile, a write at a path of two slashes has no structural problem and is refused for
its path. -/
theorem slashes_refused_where_the_tile_is :
    let body : Record Json := [("surfaceId", .str "tile"), ("path", .str "//"), ("value", .null)]
    let members : Record Json := [("updateDataModel", .obj body)]
    let s := ((empty false).apply (.createSurface "tile" .null .null [])).1
    s.disposed = false ∧ hasStructural (Validation.message "e" (.obj members)) = false ∧
      Objection s .updateDataModel "tile" body (.emptyPath "//") ∧
      (s.applyMembers members).2 = .refused (some "tile") (.emptyPath "//") := by
  intro body members s
  have hs : s.disposed = false := rfl
  have hsound : hasStructural (Validation.message "e" (.obj members)) = false := by decide +kernel
  have hobjection : Objection s .updateDataModel "tile" body (.emptyPath "//") :=
    .emptyPath "//" (by decide +kernel) rfl (by decide +kernel) (by simp) (by simp)
  refine ⟨hs, hsound, hobjection, ?_⟩
  obtain ⟨members', kind, body', id, hv, hkind, hbody, hid, -, hrefused, -⟩ :=
    sound_messages_refused_for_three_reasons hs hsound
  obtain rfl := Json.obj.inj hv
  have hcarried : MessageKind.carriedBy members = [.updateDataModel] := by decide +kernel
  obtain rfl : MessageKind.updateDataModel = kind := by simpa [hcarried] using hkind
  obtain rfl : body = body' := by simpa [members, MessageKind.name, Record.get?] using hbody
  obtain rfl : "tile" = id := by simpa [body, Record.get?] using hid
  exact (hrefused _ _).mpr ⟨rfl, hobjection⟩

end Store

end UiSurface
