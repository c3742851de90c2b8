import UiSurface.Design.Personal
import UiSurface.Proofs.Causes
import UiSurface.Proofs.Encoding
import UiSurface.Proofs.Import
import UiSurface.Proofs.Listening
import UiSurface.Proofs.Refusals

/-!
# Overlaying — what an overlay does to a design, and what not

An overlay is laid over the values of those messages that give a data model as a whole, before they are
applied.  What a message does to a store, apart from data models, does not depend on data models.  So the
design with the overlay has the same outcomes as without, and makes the same of everything but the data
models.

A data model that was given as a whole last is afterwards what it is without the overlay, with the overlay
laid over it.  What is written into it later is not changed by the overlay, and may be written over it.

Main lemmas: `Message.decode_personaliseMessage` (the overlay before or after decoding),
`Store.apply_personalise` and `Store.applyAll_personalise` (what is made of a store apart from data models),
`Store.Overlaid.apply` and `Store.Overlaid.applyAll` (a data model that was given as a whole last),
`overlay_changes_nothing_but_models`.
-/

namespace UiSurface

/-! ## Messages with an overlay -/

/-- A change of a data model, with an overlay laid over it if it gives the model as a whole. -/
def ModelUpdate.personalise (entries : Record Json) : ModelUpdate → ModelUpdate
  | write path value =>
    if (write path value).replacesRoot then write (some "/") (Design.overlaidValue value entries)
    else write path value
  | overlay older => overlay older

namespace Message

/-- A message with an overlay laid over the data model that it gives as a whole. -/
def personalise (entries : Record Json) : Message → Message
  | updateDataModel id update => updateDataModel id (update.personalise entries)
  | m => m

@[simp] theorem surface_personalise (entries : Record Json) (m : Message) :
    (m.personalise entries).surface = m.surface := by
  cases m <;> rfl

@[simp] theorem kind_personalise (entries : Record Json) (m : Message) :
    (m.personalise entries).kind = m.kind := by
  cases m <;> rfl

/-- Only an envelope of an update can give a data model. -/
theorem rootUpdate?_of_carriedBy {members : Record Json} {kind : MessageKind}
    (hcarried : MessageKind.carriedBy members = [kind]) (hkind : kind ≠ .updateDataModel) :
    Design.rootUpdate? (.obj members) = none := by
  have hnot : MessageKind.updateDataModel ∉ MessageKind.carriedBy members := by
    rw [hcarried, List.mem_singleton]
    exact hkind.symm
  have hget : Record.get? members "updateDataModel" = none := by
    simpa [MessageKind.carriedBy, MessageKind.all, MessageKind.name, Record.has] using hnot
  simp only [Design.rootUpdate?, Json.field, hget, Option.getD_none]

/-- A member that is an object is there. -/
theorem has_value_of_isObject {body : Record Json} (h : (Json.field body "value").isObject = true) :
    Record.has body "value" = true := by
  cases hget : Record.get? body "value" with
  | none => simp [Json.field, hget, Json.isObject, Json.members?] at h
  | some v => simp [Record.has, hget]

/-- The overlay is laid over the same updates before they are decoded. -/
theorem rootUpdate?_of_decodeUpdate {members body : Record Json} {update : ModelUpdate} {id : String}
    (hbody : Record.get? members "updateDataModel" = some (.obj body))
    (hread : decodeUpdate body = .ok update) (hroot : (updateDataModel id update).RootIsObject) :
    (Design.rootUpdate? (.obj members) = none ∧ ∀ entries, update.personalise entries = update) ∨
      Design.rootUpdate? (.obj members) = some body ∧ ∀ entries, update.personalise entries =
        .write (some "/") (Design.overlaidValue (Json.field body "value") entries) := by
  have hfield : Json.field members "updateDataModel" = .obj body := by simp [Json.field, hbody]
  simp only [Design.rootUpdate?, hfield]
  rcases decodeUpdate_cases hread with ⟨hform, older, rfl⟩ | ⟨-, hpath, value, rfl⟩ |
    ⟨-, path, value, hpath, rfl⟩
  · exact Or.inl ⟨by simp [hform.2.1], fun entries => rfl⟩
  · obtain ⟨rfl, -⟩ := write_of_decodeUpdate hread
    exact Or.inr ⟨by simp [hpath, Json.isNull, has_value_of_isObject (hroot rfl)], fun entries => rfl⟩
  · obtain ⟨rfl, -⟩ := write_of_decodeUpdate hread
    by_cases hslash : path = "/"
    · subst hslash
      exact Or.inr ⟨by simp [hpath, Json.isNull, has_value_of_isObject (hroot rfl)], fun entries => rfl⟩
    · exact Or.inl ⟨by simp [hpath, hslash, Json.isNull],
        fun entries => by simp [ModelUpdate.personalise, ModelUpdate.replacesRoot, hslash]⟩

/-- A message may be personalised before it is decoded, or afterwards. -/
theorem decode_personaliseMessage {v : Json} {m : Message} (hm : decode v = .ok m)
    (hroot : m.RootIsObject) (entries : Record Json) :
    decode (Design.personaliseMessage entries v) = .ok (m.personalise entries) := by
  obtain ⟨members, rfl, hmembers⟩ := decode_eq_ok_iff.mp hm
  obtain ⟨hcarried, body, hbody, hid, hread⟩ := decodeMembers_eq_ok_iff.mp hmembers
  cases m with
  | updateDataModel id update =>
    obtain ⟨hsurface, hne⟩ := Json.name?_eq_some_iff.mp hid
    rcases rootUpdate?_of_decodeUpdate hbody hread hroot with ⟨hnone, hsame⟩ | ⟨hsome, hoverlaid⟩
    · simp only [Design.personaliseMessage, hnone, personalise, hsame, hm]
    · -- what is put in the place of the message is the text of a message
      have hencoded : Design.personaliseMessage entries (.obj members) =
          (updateDataModel id (update.personalise entries)).encode := by
        simp only [Design.personaliseMessage, hsome, hsurface, hoverlaid]
        rfl
      rw [hencoded]
      exact decode_encode ⟨hne, nofun⟩
  | createSurface | updateComponents | deleteSurface =>
    have hnone : Design.rootUpdate? (.obj members) = none := rootUpdate?_of_carriedBy hcarried nofun
    simp only [Design.personaliseMessage, hnone, personalise, hm]

/-- A batch with an overlay decodes to the messages with it. -/
theorem decodeAll_personalise {vs : List Json} {ms : List Message} (hms : decodeAll vs = .ok ms)
    (hroot : ∀ m ∈ ms, m.RootIsObject) (entries : Record Json) :
    decodeAll (Design.personalise vs entries) = .ok (ms.map (personalise entries)) := by
  rw [decodeAll_eq_ok_iff] at hms ⊢
  induction vs generalizing ms with
  | nil =>
    obtain rfl : ms = [] := by simpa using hms.symm
    rfl
  | cons v vs ih =>
    cases ms with
    | nil => cases hms
    | cons m ms =>
      obtain ⟨hv, hvs⟩ := List.cons.inj hms
      obtain ⟨hm, hrest⟩ := List.forall_mem_cons.mp hroot
      simp only [Design.personalise, List.map_cons] at ih ⊢
      rw [decode_personaliseMessage hv hm entries, ih hvs hrest]

/-- Messages without a structural problem decode, and put objects at roots. -/
theorem exists_decodeAll_of_isSound {vs : List Json} (h : ∀ v ∈ vs, Validation.isSound v = true) :
    ∃ ms, decodeAll vs = .ok ms ∧ ∀ m ∈ ms, m.RootIsObject := by
  have hsound : ∀ v ∈ vs, ∀ p ∈ Validation.message Place.batch v, p.isStructural = false := by
    intro v hv
    rw [← hasStructural_eq_false_iff]
    simpa [Validation.isSound] using h v hv
  obtain ⟨ms, hms⟩ := exists_decodeAll_iff.mpr fun v hv => exists_decode_of_sound (hsound v hv)
  refine ⟨ms, hms, fun m hm => ?_⟩
  obtain ⟨v, hv, hdecode⟩ := (mem_of_decodeAll hms).mp hm
  exact rootIsObject_of_sound hdecode (hsound v hv)

end Message

/-! ## All but the data models -/

def Surface.modelless (x : Surface) : Surface := { x with model := [] }

def Handle.modelless (h : Handle) : Handle := { h with surface := h.surface.modelless }

namespace Store

/-- A store without the data models of its surfaces, the stale ones too. -/
def modelless (s : Store) : Store :=
  { s with
    live := Record.mapValues Handle.modelless s.live
    retired := s.retired.map Handle.modelless }

/-- A surface is found without its data model. -/
theorem surface?_modelless (s : Store) (id : String) :
    s.modelless.surface? id = (s.surface? id).map Surface.modelless := by
  simp only [surface?, modelless, Record.get?_mapValues, Option.map_map]
  rfl

theorem place_modelless (s : Store) (x : Surface) :
    s.modelless.place x.modelless = (s.place x).modelless := by
  have hid : x.modelless.id = x.id := rfl
  have hhandle : (⟨s.nextHandle, x.modelless, false⟩ : Handle) =
      Handle.modelless ⟨s.nextHandle, x, false⟩ := rfl
  simp only [place, modelless, hid, hhandle, Record.get?_mapValues, Record.put_mapValues]
  cases Record.get? s.live x.id <;> rfl

theorem modify_modelless (s : Store) (id : String) (x : Surface) :
    s.modelless.modify id (fun _ => x.modelless) = (s.modify id fun _ => x).modelless := by
  simp only [modify, modelless, Record.get?_mapValues]
  cases Record.get? s.live id with
  | none => rfl
  | some h =>
    have hhandle : { h.modelless with surface := x.modelless } =
        Handle.modelless { h with surface := x } := rfl
    simp only [Option.map_some, hhandle, Record.put_mapValues]

theorem remove_modelless (s : Store) (id : String) :
    s.modelless.remove id = (s.remove id).modelless := by
  simp only [remove, modelless, Record.get?_mapValues, Record.erase_mapValues]
  cases Record.get? s.live id <;> rfl

theorem notify_modelless (s : Store) (kind : MessageKind) (id : String) :
    s.modelless.notify kind id = (s.notify kind id).modelless := by
  have htold : s.modelless.told kind id = s.told kind id := by
    funext name
    simp only [told, modelless, Record.has_mapValues]
  simp only [notify_eq_told, htold]
  rfl

/-! ### One message on two stores -/

section

variable {s t : Store} {m : Message}

/-- Stores that differ only in data models are set up alike. -/
theorem sameSettings_of_modelless_eq (hst : t.modelless = s.modelless) : SameSettings s t := by
  have haccepts : t.modelless.acceptsOverlay = s.modelless.acceptsOverlay := by rw [hst]
  have hdisposed : t.modelless.disposed = s.modelless.disposed := by rw [hst]
  exact ⟨haccepts, hdisposed⟩

/-- Two stores that differ in data models only have surfaces under the same ids, and these differ in their
data models only. -/
theorem surface?_of_modelless_eq (hst : t.modelless = s.modelless) (id : String) :
    (s.surface? id = none ∧ t.surface? id = none) ∨
      ∃ x model, s.surface? id = some x ∧ t.surface? id = some { x with model := model } := by
  have hsame : (t.surface? id).map Surface.modelless = (s.surface? id).map Surface.modelless := by
    rw [← surface?_modelless, ← surface?_modelless, hst]
  cases hs : s.surface? id with
  | none =>
    rw [hs, Option.map_none, Option.map_eq_none_iff] at hsame
    exact Or.inl ⟨rfl, hsame⟩
  | some x =>
    rw [hs, Option.map_some, Option.map_eq_some_iff] at hsame
    obtain ⟨y, ht, hxy⟩ := hsame
    refine Or.inr ⟨x, y.model, rfl, ?_⟩
    rw [ht]
    simp only [Surface.modelless, Surface.mk.injEq] at hxy
    obtain ⟨hid, hrootId, hcomponents, -, htokens, hcatalog, hsend⟩ := hxy
    simp only [← hid, ← hrootId, ← hcomponents, ← htokens, ← hcatalog, ← hsend]

/-- Whether a data model can be updated depends neither on the model nor on an overlay. -/
theorem updatedModel_personalise {id : String} {update : ModelUpdate}
    (hroot : (Message.updateDataModel id update).RootIsObject) (acceptsOverlay : Bool)
    (model other : DataModel) (entries : Record Json) :
    (updatedModel acceptsOverlay other (update.personalise entries)).map (fun _ => ()) =
      (updatedModel acceptsOverlay model update).map fun _ => () := by
  cases update with
  | overlay older => cases acceptsOverlay <;> rfl
  | write path value =>
    by_cases hreplaces : (ModelUpdate.write path value).replacesRoot = true
    · obtain ⟨members, rfl⟩ := Json.isObject_iff.mp (hroot hreplaces)
      have hpath : (path.isNone || path == some "/") = true := hreplaces
      simp only [ModelUpdate.personalise, if_pos hreplaces, updatedModel, if_pos hpath]
      rfl
    · have hpath : (path.isNone || path == some "/") = false := Bool.eq_false_iff.mpr hreplaces
      simp only [ModelUpdate.personalise, if_neg hreplaces, updatedModel, hpath, Bool.false_eq_true,
        if_false]
      cases (Path.segments (path.getD "")).isEmpty <;> rfl

/-- A result without the data models of its store. -/
def bare {α : Type} (r : Store × α) : Store × α := (r.1.modelless, r.2)

/-- A message with an overlay makes the same of a store, apart from data models, as without, and is refused
for the same reason.  So it is on a store with other data models. -/
theorem effect_personalise (hst : t.modelless = s.modelless) (hroot : m.RootIsObject)
    (entries : Record Json) :
    (t.effect (m.personalise entries)).map bare = (s.effect m).map bare := by
  -- nothing but an update of the data model looks at a data model
  cases m with
  | createSurface id catalogId sendDataModel tokens =>
    simp only [Message.personalise, effect, Except.map, bare, ← place_modelless, hst]
  | updateComponents id cs =>
    simp only [Message.personalise, effect]
    rcases surface?_of_modelless_eq hst id with ⟨hs, ht⟩ | ⟨x, model, hs, ht⟩
    · simp only [hs, ht, Except.map]
    · simp only [hs, ht, Except.map, bare, ← modify_modelless, hst]
      rfl
  | updateDataModel id update =>
    simp only [Message.personalise, effect]
    rcases surface?_of_modelless_eq hst id with ⟨hs, ht⟩ | ⟨x, model, hs, ht⟩
    · simp only [hs, ht, Except.map]
    · have haccepts : t.acceptsOverlay = s.acceptsOverlay := (sameSettings_of_modelless_eq hst).1
      have hupdated := updatedModel_personalise hroot s.acceptsOverlay x.model model entries
      simp only [hs, ht, haccepts]
      -- both are refused, for the same reason, or both are written
      rcases Fallible.map_eq_map_iff.mp hupdated with ⟨reason, hpersonal, hplain⟩ |
        ⟨personal, plain, hpersonal, hplain, -⟩
      · simp only [hpersonal, hplain, Except.map]
      · simp only [hpersonal, hplain, Except.map, bare, ← modify_modelless, hst]
        rfl
  | deleteSurface id =>
    simp only [Message.personalise, effect]
    rcases surface?_of_modelless_eq hst id with ⟨hs, ht⟩ | ⟨x, model, hs, ht⟩
    · simp only [hs, ht, Except.map]
    · simp only [hs, ht, Except.map, bare, ← remove_modelless, hst]

/-- So it is with the whole message, and the outcomes are the same. -/
theorem apply_personalise (hst : t.modelless = s.modelless) (hroot : m.RootIsObject)
    (entries : Record Json) : bare (t.apply (m.personalise entries)) = bare (s.apply m) := by
  have hdisposed : t.disposed = s.disposed := (sameSettings_of_modelless_eq hst).2
  have heffect := effect_personalise hst hroot entries
  simp only [apply, hdisposed]
  cases s.disposed with
  | true => simp only [if_true, bare, hst]
  | false =>
    simp only [Bool.false_eq_true, if_false]
    rcases Fallible.map_eq_map_iff.mp heffect with ⟨reason, hpersonal, hplain⟩ |
      ⟨⟨t', cautions'⟩, ⟨s', cautions⟩, hpersonal, hplain, hbare⟩
    · simp only [hpersonal, hplain, Message.surface_personalise, bare, hst]
    · obtain ⟨hstore, rfl⟩ := Prod.mk.inj hbare
      simp only [hpersonal, hplain, Message.surface_personalise, Message.kind_personalise, bare,
        ← notify_modelless, hstore]

/-- A run of messages with an overlay has the outcomes that it has without, and makes the same of a store
apart from data models. -/
theorem applyAll_personalise {ms : List Message} (hst : t.modelless = s.modelless)
    (hroot : ∀ m ∈ ms, m.RootIsObject) (entries : Record Json) :
    bare (t.applyAll (ms.map (Message.personalise entries))) = bare (s.applyAll ms) := by
  induction ms generalizing s t with
  | nil => simp only [List.map_nil, applyAll, bare, hst]
  | cons m ms ih =>
    obtain ⟨hm, hrest⟩ := List.forall_mem_cons.mp hroot
    obtain ⟨hstore, houtcome⟩ := Prod.mk.inj (apply_personalise hst hm entries)
    obtain ⟨hstores, houtcomes⟩ := Prod.mk.inj (ih hstore hrest)
    simp only [List.map_cons, applyAll, bare, hstores, houtcome, houtcomes]

end

end Store

/-! ## Data models that are given -/

/-- Whether a message gives the data model of a surface, or a part of it: by creating the surface, or by an
update. -/
def Message.givesModel (id : String) (m : Message) : Bool :=
  m.surface == id && (m.kind == .createSurface || m.kind == .updateDataModel)

/-- The last message that was applied of those that give the data model of a surface. -/
def Store.lastGiven (id : String) (messages : List Message) (outcomes : List Outcome) : Option Message :=
  ((messages.zip outcomes).filter fun e => e.2.isAccepted && e.1.givesModel id).getLast?.map Prod.fst

/-- A surface with an overlay laid over its data model. -/
def Surface.overlaid (entries : Record Json) (x : Surface) : Surface :=
  { x with model := x.model.overlay entries }

namespace Store

/-- The last message that gives a data model is the one behind, if there is one, or else the first. -/
theorem lastGiven_cons (id : String) (m : Message) (ms : List Message) (o : Outcome)
    (outcomes : List Outcome) : lastGiven id (m :: ms) (o :: outcomes) =
      (lastGiven id ms outcomes).or (if o.isAccepted && m.givesModel id then some m else none) := by
  unfold lastGiven
  rw [List.zip_cons_cons, List.filter_cons]
  cases o.isAccepted && m.givesModel id with
  | false => simp
  | true =>
    rw [if_pos rfl, List.getLast?_cons]
    cases ((ms.zip outcomes).filter fun e => e.2.isAccepted && e.1.givesModel id).getLast? <;> rfl

/-- If a surface was given its data model as a whole last, the second store has it as the first does with
the overlay laid over its data model. -/
def Overlaid (entries : Record Json) (id : String) (given : Option Message) (s t : Store) : Prop :=
  ∀ path value, given = some (.updateDataModel id (.write path value)) →
    path = none ∨ path = some "/" → t.surface? id = (s.surface? id).map (Surface.overlaid entries)

/-- Updates of components and deletions do the same below an overlay. -/
theorem onSurface_overlaid {id : String} {m : Message} (hid : m.surface = id)
    (hgives : m.givesModel id = false) (acceptsOverlay : Bool) (entries : Record Json)
    (x : Option Surface) :
    (m.personalise entries).onSurface acceptsOverlay (x.map (Surface.overlaid entries)) =
      (m.onSurface acceptsOverlay x).map (Surface.overlaid entries) := by
  cases m with
  | createSurface | updateDataModel => simp [Message.givesModel, hid, Message.kind] at hgives
  | updateComponents => cases x <;> rfl
  | deleteSurface => rfl

/-- A data model that is given as a whole is given with the overlay. -/
theorem onSurface_of_root {s t : Store} (hst : t.modelless = s.modelless) {id : String}
    {path : Option String} {value : Json} (hpath : path = none ∨ path = some "/")
    (hroot : (Message.updateDataModel id (.write path value)).RootIsObject) (acceptsOverlay : Bool)
    (entries : Record Json) :
    ((Message.updateDataModel id (.write path value)).personalise entries).onSurface acceptsOverlay
        (t.surface? id) =
      ((Message.updateDataModel id (.write path value)).onSurface acceptsOverlay (s.surface? id)).map
        (Surface.overlaid entries) := by
  have hreplaces : (ModelUpdate.write path value).replacesRoot = true := by
    rcases hpath with rfl | rfl <;> rfl
  have hif : (path.isNone || path == some "/") = true := hreplaces
  obtain ⟨members, rfl⟩ := Json.isObject_iff.mp (hroot hreplaces)
  simp only [Message.personalise, ModelUpdate.personalise, if_pos hreplaces, Message.onSurface,
    updatedModel, if_pos hif]
  rcases surface?_of_modelless_eq hst id with ⟨hs, ht⟩ | ⟨x, model, hs, ht⟩
  · rw [hs, ht]
    rfl
  · rw [hs, ht]
    rfl

section

variable {s t : Store} {entries : Record Json} {id : String} {given : Option Message}

/-- One message, with an overlay and without. -/
theorem Overlaid.apply (h : Overlaid entries id given s t) (hst : t.modelless = s.modelless) {m : Message}
    (hroot : m.RootIsObject) :
    Overlaid entries id
      ((if (s.apply m).2.isAccepted && m.givesModel id then some m else none).or given)
      (s.apply m).1 (t.apply (m.personalise entries)).1 := by
  obtain ⟨-, houtcome⟩ := Prod.mk.inj (apply_personalise hst hroot entries)
  obtain ⟨haccepts, hdisposed⟩ := sameSettings_of_modelless_eq hst
  rcases s.apply_cases m with ⟨about, reason, hs⟩ | ⟨u, cautions, hs, -, hs'⟩
  · -- it is refused by both
    have ht : (t.apply (m.personalise entries)).1 = t := by
      rcases t.apply_cases (m.personalise entries) with ⟨_, _, ht⟩ | ⟨_, _, -, -, ht⟩
      · rw [ht]
      · rw [hs, ht] at houtcome
        cases houtcome
    rw [hs, ht]
    exact h
  · intro path value hgiven hpath
    rw [surface?_apply hs, surface?_apply (hdisposed.trans hs), Message.surface_personalise, haccepts]
    have haccepted : (s.apply m).2.isAccepted = true := by rw [hs']; rfl
    rw [haccepted, Bool.true_and] at hgiven
    by_cases hid : m.surface = id
    · rw [if_pos hid, if_pos hid]
      cases hgives : m.givesModel id with
      | true =>
        rw [hgives, if_pos rfl, Option.some_or, Option.some.injEq] at hgiven
        subst hgiven
        exact onSurface_of_root hst hpath hroot s.acceptsOverlay entries
      | false =>
        rw [hgives, if_neg Bool.false_ne_true, Option.none_or] at hgiven
        rw [h path value hgiven hpath, onSurface_overlaid hid hgives]
    · have hgives : m.givesModel id = false := by simp [Message.givesModel, hid]
      rw [hgives, if_neg Bool.false_ne_true, Option.none_or] at hgiven
      rw [if_neg hid, if_neg hid]
      exact h path value hgiven hpath

/-- A run of messages, with an overlay and without. -/
theorem Overlaid.applyAll (h : Overlaid entries id given s t) (hst : t.modelless = s.modelless)
    {ms : List Message} (hroot : ∀ m ∈ ms, m.RootIsObject) :
    Overlaid entries id ((lastGiven id ms (s.applyAll ms).2).or given) (s.applyAll ms).1
      (t.applyAll (ms.map (Message.personalise entries))).1 := by
  induction ms generalizing s t given with
  | nil => exact h
  | cons m ms ih =>
    obtain ⟨hm, hrest⟩ := List.forall_mem_cons.mp hroot
    obtain ⟨hstore, -⟩ := Prod.mk.inj (apply_personalise hst hm entries)
    have hlater := ih (h.apply hst hm) hstore hrest
    rw [← Option.or_assoc] at hlater
    simp only [List.map_cons, Store.applyAll, lastGiven_cons]
    exact hlater

end

end Store

/-! ## Designs with an overlay -/

/-- An overlay changes nothing of a design but data models.  Messages without a structural problem decode,
and those of a design with an overlay have the outcomes that they have without, message by message.  They
make the same of a store, listeners and handles included, apart from the data models of its surfaces.  If,
among the messages that were applied, the last to create a surface or to change its data model gave the
model as a whole, then the surface is there in both or in neither, and its data model is the one without the
overlay with the overlay laid over it.  This holds of every store and every overlay, flat or nested. -/
theorem overlay_changes_nothing_but_models (s : Store) {messages : List Json}
    (h : ∀ v ∈ messages, Validation.isSound v = true) (entries : Record Json) :
    ∃ ms plain personal outcomes, Message.decodeAll messages = .ok ms ∧
      s.applyValues messages = (plain, .ok outcomes) ∧
      s.applyValues (Design.personalise messages entries) = (personal, .ok outcomes) ∧
      outcomes.length = messages.length ∧ personal.modelless = plain.modelless ∧
      ∀ id path value,
        Store.lastGiven id ms outcomes = some (.updateDataModel id (.write path value)) →
        path = none ∨ path = some "/" →
        personal.surface? id = (plain.surface? id).map (Surface.overlaid entries) := by
  obtain ⟨ms, hms, hroot⟩ := Message.exists_decodeAll_of_isSound h
  have hpersonal := s.applyValues_of_decodeAll (Message.decodeAll_personalise hms hroot entries)
  obtain ⟨hstores, houtcomes⟩ := Prod.mk.inj (Store.applyAll_personalise (s := s) rfl hroot entries)
  rw [houtcomes] at hpersonal
  refine ⟨ms, _, _, _, hms, s.applyValues_of_decodeAll hms, hpersonal,
    (s.length_applyAll ms).trans (Message.length_of_decodeAll hms), hstores, fun id => ?_⟩
  -- at first there is nothing that was given
  have hnone : Store.Overlaid entries id none s s := fun _ _ hgiven => nomatch hgiven
  have hrun := hnone.applyAll rfl hroot
  rwa [Option.or_none] at hrun

/-- Two surfaces are given their data models as a whole, and a value is written into that of the second.  The
first gets the overlay, a path of which leads into an object; in the second the value stays. -/
theorem greeting_overlaid_and_count_kept :
    let create (id : String) : Json := .obj [("createSurface", .obj [("surfaceId", .str id)])]
    let update (id : String) (rest : Record Json) : Json :=
      .obj [("updateDataModel", .obj (("surfaceId", .str id) :: rest))]
    let root : Record Json := [("hello", .obj [("text", .str "Hi"), ("size", .ofInt 2)])]
    let messages := [create "tile", update "tile" [("value", .obj root)], create "note",
      update "note" [("path", .str "/"), ("value", .obj [])],
      update "note" [("path", .str "/count"), ("value", .ofInt 7)]]
    let entries : Record Json := [("/hello/text", .str "Ho"), ("count", .ofInt 1)]
    (∀ v ∈ messages, Validation.isSound v = true) ∧
    ∃ plain personal outcomes, (Store.empty false).applyValues messages = (plain, .ok outcomes) ∧
      (Store.empty false).applyValues (Design.personalise messages entries) = (personal, .ok outcomes) ∧
      personal.modelless = plain.modelless ∧
      personal.surface? "tile" = (plain.surface? "tile").map (Surface.overlaid entries) ∧
      (plain.surface? "tile").map Surface.model = some root ∧
      (personal.surface? "tile").map Surface.model =
        some [("hello", .obj [("text", .str "Ho"), ("size", .ofInt 2)]), ("count", .ofInt 1)] ∧
      (personal.surface? "note").map Surface.model =
        some [("hello", .obj [("text", .str "Ho")]), ("count", .ofInt 7)] := by
  intro create update root messages entries
  have hsound : ∀ v ∈ messages, Validation.isSound v = true := by decide +kernel
  obtain ⟨ms, plain, personal, outcomes, hms, hplain, hpersonal, -, hstores, hgiven⟩ :=
    overlay_changes_nothing_but_models (Store.empty false) hsound entries
  have htile : Store.lastGiven "tile" ms outcomes =
      some (.updateDataModel "tile" (.write none (.obj root))) := by
    obtain rfl : _ = ms := Except.ok.inj hms
    obtain rfl : _ = outcomes := Except.ok.inj (congrArg Prod.snd hplain)
    rfl
  have hoverlaid := hgiven "tile" none (.obj root) htile (Or.inl rfl)
  refine ⟨hsound, plain, personal, outcomes, hplain, hpersonal, hstores, hoverlaid, ?_⟩
  obtain rfl : _ = plain := congrArg Prod.fst hplain
  obtain rfl : _ = personal := congrArg Prod.fst hpersonal
  decide +kernel

end UiSurface
