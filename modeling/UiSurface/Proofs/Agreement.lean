import UiSurface.Proofs.Decoding
import UiSurface.Store.Batch

/-!
# Agreement of validation and decoding

Validation and decoding read the wire format on their own.  They agree on every value but for four
shapes: validation asks for an object, a list or an action wherever the member is present, while
decoding takes null for an absent member, and validation looks at the value that replaces a whole
data model, which decoding leaves to the store.

`Component.Overlooked` and `Message.Overlooked` name these four shapes, each with the problem that is
reported for it.

Main lemmas: `Component.exists_decodeMembers_iff` (a component decodes exactly if its problems are
overlooked ones), `Message.exists_decode_of_sound` (what has no structural problem decodes),
`Message.mem_problems_iff_of_decode` (what decodes has exactly the overlooked problems),
`Message.exists_decodeAll_of_sound` (a sound batch decodes as a whole).
-/

namespace UiSurface

/-! ## Lists of problems -/

/-- Nothing is structurally wrong if none of the problems is structural. -/
theorem hasStructural_eq_false_iff {problems : List Problem} :
    hasStructural problems = false ↔ ∀ p ∈ problems, p.isStructural = false := by
  simp [hasStructural]

theorem hasStructural_of_eq_nil {problems : List Problem} (h : problems = []) :
    hasStructural problems = false := by
  rw [h]
  rfl

/-- If all problems that there can be are structural and none is, there is none. -/
theorem eq_nil_of_structural {problems : List Problem}
    (hall : ∀ p ∈ problems, p.isStructural = true)
    (hnone : ∀ p ∈ problems, p.isStructural = false) : problems = [] := by
  rw [List.eq_nil_iff_forall_not_mem]
  intro p hp
  have hboth := hall p hp
  rw [hnone p hp] at hboth
  cases hboth

namespace Validation

/-- What a condition gives is the one problem of its failing. -/
theorem mem_require {ok : Bool} {place : String} {cause : ProblemCause} {p : Problem} :
    p ∈ require ok place cause ↔ ok = false ∧ p = ⟨place, cause⟩ := by
  cases ok <;> simp [require]

theorem require_eq_nil_iff {ok : Bool} {place : String} {cause : ProblemCause} :
    require ok place cause = [] ↔ ok = true := by
  cases ok <;> simp [require]

/-- A problem of a list of items is a problem of one of them, judged with its index. -/
theorem mem_itemwise {α : Type} {judge : Nat → α → List Problem} {items : List α} {p : Problem} :
    p ∈ itemwise judge items ↔ ∃ (j : Nat) (v : α), items[j]? = some v ∧ p ∈ judge j v := by
  simp only [itemwise, List.mem_flatten, List.mem_map]
  constructor
  · rintro ⟨_, ⟨⟨v, j⟩, hmem, rfl⟩, hp⟩
    exact ⟨j, v, List.mem_zipIdx_iff_getElem?.mp hmem, hp⟩
  · rintro ⟨j, v, hj, hp⟩
    exact ⟨judge j v, ⟨(v, j), List.mem_zipIdx_iff_getElem?.mpr hj, rfl⟩, hp⟩

/-- A list has no problem exactly if no item of it has one. -/
theorem itemwise_eq_nil_iff {α : Type} {judge : Nat → α → List Problem} {items : List α} :
    itemwise judge items = [] ↔ ∀ i v, items[i]? = some v → judge i v = [] := by
  simp only [List.eq_nil_iff_forall_not_mem, mem_itemwise]
  constructor
  · exact fun h i v hi p hp => h p ⟨i, v, hi, hp⟩
  · rintro h p ⟨i, v, hi, hp⟩
    exact h i v hi p hp

/-- Items may be changed before they are judged, or as they are judged. -/
theorem itemwise_map {α β : Type} (f : α → β) (judge : Nat → β → List Problem) (items : List α) :
    itemwise judge (items.map f) = itemwise (fun i v => judge i (f v)) items := by
  simp [itemwise, List.zipIdx_map, Function.comp_def]

theorem itemwise_congr {α : Type} {judge judge' : Nat → α → List Problem} {items : List α}
    (h : ∀ v ∈ items, ∀ i, judge i v = judge' i v) : itemwise judge items = itemwise judge' items := by
  refine congrArg List.flatten (List.map_congr_left fun e he => ?_)
  exact h e.1 (List.fst_mem_of_mem_zipIdx he) e.2

/-- References between components are never structural problems. -/
theorem isStructural_of_mem_references {place : String} {items : List Json} {p : Problem}
    (hp : p ∈ references place items) : p.isStructural = false := by
  simp only [references, List.mem_append, mem_itemwise] at hp
  rcases hp with ⟨j, c, -, k, child, -, hp⟩ | hp
  · cases child with
    | str id =>
      obtain ⟨-, rfl⟩ := mem_require.mp hp
      rfl
    | null | bool | num | arr | obj => simp [reference] at hp
  · split at hp
    · obtain rfl := List.mem_singleton.mp hp
      rfl
    · obtain ⟨-, rfl⟩ := mem_require.mp hp
      rfl

end Validation

/-! ## Components -/

namespace Component

/-- A problem of a component that decoding overlooks: null children, a null list of children, or a
null action. -/
def Overlooked (place : String) (members : Record Json) (p : Problem) : Prop :=
  match p.cause with
  | .children =>
    p.place = Place.member place "children" ∧ Record.get? members "children" = some .null
  | .explicitList =>
    p.place = Place.member (Place.member place "children") "explicitList" ∧
      ∃ list, Record.get? members "children" = some (.obj list) ∧
        Record.get? list "explicitList" = some .null
  | .action => p.place = Place.member place "action" ∧ Record.get? members "action" = some .null
  | _ => False

/-- A field that holds an object decodes unless it is something else than an object or nothing. -/
theorem exists_decodeObject_iff (id field : String) {v : Json} :
    (∃ o, decodeObject id field v = .ok o) ↔ (v.isNull || v.isObject) = true := by
  cases v <;> simp [decodeObject, Json.isNull, Json.isObject, Json.members?]

/-- A field that holds a string decodes unless it is something else than a string or nothing. -/
theorem exists_decodeString_iff (id field : String) {v : Json} :
    (∃ o, decodeString id field v = .ok o) ↔ (v.isNull || v.isString) = true := by
  cases v <;> simp [decodeString, Json.isNull, Json.isString, Json.text?]

/-- The problems of a list of ids are none exactly if it is one. -/
theorem explicitList_eq_nil_iff {place : String} {v : Json} :
    Validation.explicitList place v = [] ↔ ∃ ids, idList? v = some ids := by
  cases v with
  | arr items =>
    simp only [Validation.explicitList, List.eq_nil_iff_forall_not_mem, Validation.mem_itemwise,
      Validation.mem_require, idList?_eq_some_iff, Json.arr.injEq]
    constructor
    · intro h
      have hstr : ∀ v ∈ items, ∃ s, v = .str s := by
        intro v hv
        obtain ⟨j, hj⟩ := List.mem_iff_getElem?.mp hv
        rw [← Json.isString_iff]
        cases hs : v.isString with
        | true => rfl
        | false => exact absurd ⟨j, v, hj, hs, rfl⟩ (h _)
      clear h
      -- what is left is about the items alone, and follows the list
      induction items with
      | nil => exact ⟨[], rfl⟩
      | cons v vs ih =>
        obtain ⟨s, rfl⟩ := hstr v (by simp)
        obtain ⟨ids, rfl⟩ := ih (fun w hw => hstr w (by simp [hw]))
        exact ⟨s :: ids, rfl⟩
    · rintro ⟨ids, rfl⟩ p ⟨j, v, hj, hv, -⟩
      obtain ⟨s, -, rfl⟩ := List.mem_map.mp (List.mem_of_getElem? hj)
      simp [Json.isString, Json.text?] at hv
  | null | bool | num | str | obj => simp [Validation.explicitList, idList?]

theorem cause_of_mem_explicitList {place : String} {v : Json} {p : Problem}
    (hp : p ∈ Validation.explicitList place v) : p.cause = .childId ∨ p.cause = .explicitList := by
  cases v with
  | arr items =>
    rw [Validation.explicitList, Validation.mem_itemwise] at hp
    obtain ⟨j, w, -, hp⟩ := hp
    obtain ⟨-, rfl⟩ := Validation.mem_require.mp hp
    exact Or.inl rfl
  | null | bool | num | str | obj =>
    obtain rfl := List.mem_singleton.mp hp
    exact Or.inr rfl

variable {place : String} {members : Record Json}

/-- Children decode from nothing, or from an object with a list of ids or none. -/
theorem exists_decodeChildren_iff (id : String) {v : Json} :
    (∃ r, decodeChildren id v = .ok r) ↔ v = .null ∨ ∃ list, v = .obj list ∧
      (Json.field list "explicitList" = .null ∨
        ∃ ids, idList? (Json.field list "explicitList") = some ids) := by
  simp only [decodeChildren_eq_ok_iff]
  constructor
  · rintro ⟨r, ⟨rfl, -⟩ | ⟨list, explicit, rfl, -, ⟨hnull, -⟩ | ⟨ids, hids, -⟩⟩⟩
    · exact Or.inl rfl
    · exact Or.inr ⟨list, rfl, Or.inl hnull⟩
    · exact Or.inr ⟨list, rfl, Or.inr ⟨ids, hids⟩⟩
  · rintro (rfl | ⟨list, rfl, hnull | ⟨ids, hids⟩⟩)
    · exact ⟨none, Or.inl ⟨rfl, rfl⟩⟩
    · exact ⟨_, Or.inr ⟨list, none, rfl, rfl, Or.inl ⟨hnull, rfl⟩⟩⟩
    · exact ⟨_, Or.inr ⟨list, some ids, rfl, rfl, Or.inr ⟨ids, hids, rfl⟩⟩⟩

/-- Children decode exactly if nothing is wrong with them that decoding does not overlook. -/
theorem exists_decodeChildren_iff_overlooked (id : String) :
    (∃ r, decodeChildren id (Json.field members "children") = .ok r) ↔
      ∀ p ∈ Validation.children (Place.member place "children") (Record.get? members "children"),
        Overlooked place members p := by
  rw [exists_decodeChildren_iff]
  cases hc : Record.get? members "children" with
  | none => simp [Json.field, hc, Validation.children]
  | some v =>
    cases v with
    | null => simp [Json.field, hc, Validation.children, Overlooked]
    | obj list =>
      simp only [Json.field, hc, Validation.children, Option.getD_some, reduceCtorEq, false_or,
        Json.obj.injEq, exists_eq_left']
      cases hl : Record.get? list "explicitList" with
      | none => simp
      | some e =>
        by_cases hnull : e = .null
        · -- decoding takes the null list for an absent one
          subst hnull
          simp [hl, Validation.explicitList, Overlooked, hc]
        · simp only [Option.getD_some, hnull, false_or]
          rw [← explicitList_eq_nil_iff, List.eq_nil_iff_forall_not_mem]
          refine forall_congr' fun p => ?_
          constructor
          · exact fun hno hp => (hno hp).elim
          · intro hover hp
            have := hover hp
            rcases cause_of_mem_explicitList hp with hcause | hcause
            · simp [Overlooked, hcause] at this
            · simp [Overlooked, hcause, hc, hl, hnull] at this
    | bool | num | str | arr =>
      simp [Json.field, hc, Validation.children, Overlooked]

/-- An action is judged by the name of its event, which is null where there is no event. -/
theorem action_some_eq {place : String} {v : Json} :
    Validation.action place (some v) =
      Validation.require (Json.field (eventMembers v) "name").isName place .action := by
  cases v with
  | obj members =>
    simp only [Validation.action, Validation.eventOf, eventMembers]
    cases Json.field members "event" <;> rfl
  | null | bool | num | str | arr => rfl

/-- An action decodes exactly if nothing is wrong with it that decoding does not overlook. -/
theorem exists_decodeAction_iff_overlooked (id : String) :
    (∃ r, decodeAction id (Json.field members "action") = .ok r) ↔
      ∀ p ∈ Validation.action (Place.member place "action") (Record.get? members "action"),
        Overlooked place members p := by
  simp only [decodeAction_eq_ok_iff]
  cases ha : Record.get? members "action" with
  | none => simp [Json.field, ha, Validation.action]
  | some v =>
    -- null is not looked at by decoding, and validation asks it for an event
    by_cases hnull : v = .null
    · subst hnull
      simp [Json.field, ha, Validation.action, Validation.eventOf, Overlooked]
    · have hno : ¬ Overlooked place members ⟨Place.member place "action", .action⟩ := by
        simp [Overlooked, ha, hnull]
      have hfield : Json.field members "action" = v := (Json.field_eq_iff hnull).mpr ha
      simp only [hfield, action_some_eq, Validation.mem_require, hnull, false_and, false_or]
      constructor
      · rintro ⟨_, -, name, hname, rfl⟩ p ⟨hbad, -⟩
        simp [Json.isName, hname] at hbad
      · intro hover
        have hname : (Json.field (eventMembers v) "name").isName = true := by
          cases hs : (Json.field (eventMembers v) "name").isName with
          | true => rfl
          | false => exact (hno (hover _ ⟨hs, rfl⟩)).elim
        obtain ⟨name, hname⟩ := Json.isName_iff.mp hname
        exact ⟨_, hnull, name, hname, rfl⟩

/-- A condition whose problem decoding never overlooks. -/
theorem forall_mem_require_iff {ok : Bool} {spot : String} {cause : ProblemCause}
    (hno : ¬ Overlooked place members ⟨spot, cause⟩) :
    (∀ p ∈ Validation.require ok spot cause, Overlooked place members p) ↔ ok = true := by
  cases ok <;> simp [Validation.require, hno]

/-- A component decodes exactly if nothing is wrong with it that decoding does not overlook. -/
theorem exists_decodeMembers_iff :
    (∃ c, decodeMembers members = .ok c) ↔
      ∀ p ∈ Validation.component place (.obj members), Overlooked place members p := by
  have hproblems : (∀ p ∈ Validation.component place (.obj members), Overlooked place members p) ↔
      (Json.field members "id").isName = true ∧ (typeField members).isName = true ∧
      (∀ p ∈ Validation.children (Place.member place "children") (Record.get? members "children"),
        Overlooked place members p) ∧
      (∀ p ∈ Validation.action (Place.member place "action") (Record.get? members "action"),
        Overlooked place members p) ∧
      ((Json.field members "text").isNull || (Json.field members "text").isString) = true ∧
      ((Json.field members "label").isNull || (Json.field members "label").isString) = true ∧
      ((Json.field members "style").isNull || (Json.field members "style").isObject) = true ∧
      ((Json.field members "labelStyle").isNull || (Json.field members "labelStyle").isObject)
        = true := by
    have htype : Validation.typeOf members = typeField members := by
      unfold Validation.typeOf typeField
      cases Record.get? members "component" <;> rfl
    simp only [Validation.component, htype, Validation.stringField, Validation.objectField,
      List.forall_mem_append, and_assoc]
    rw [forall_mem_require_iff (by simp [Overlooked]), forall_mem_require_iff (by simp [Overlooked]),
      forall_mem_require_iff (by simp [Overlooked]), forall_mem_require_iff (by simp [Overlooked]),
      forall_mem_require_iff (by simp [Overlooked]), forall_mem_require_iff (by simp [Overlooked])]
  -- validation and decoding ask the same of each field, so each direction goes field by field
  rw [hproblems]
  constructor
  · rintro ⟨c, hc⟩
    obtain ⟨hid, htype, hchildren, haction, hstyle, hlabelStyle, htext, hlabel, -⟩ :=
      decodeMembers_eq_ok_iff.mp hc
    exact ⟨Json.isName_iff.mpr ⟨_, hid⟩, Json.isName_iff.mpr ⟨_, htype⟩,
      (exists_decodeChildren_iff_overlooked c.id).mp ⟨_, hchildren⟩,
      (exists_decodeAction_iff_overlooked c.id).mp ⟨_, haction⟩,
      (exists_decodeString_iff c.id _).mp ⟨_, htext⟩,
      (exists_decodeString_iff c.id _).mp ⟨_, hlabel⟩,
      (exists_decodeObject_iff c.id _).mp ⟨_, hstyle⟩,
      (exists_decodeObject_iff c.id _).mp ⟨_, hlabelStyle⟩⟩
  · rintro ⟨hid, htype, hchildren, haction, htext, hlabel, hstyle, hlabelStyle⟩
    obtain ⟨id, hid⟩ := Json.isName_iff.mp hid
    obtain ⟨type, htype⟩ := Json.isName_iff.mp htype
    obtain ⟨children, hchildren⟩ := (exists_decodeChildren_iff_overlooked id).mpr hchildren
    obtain ⟨action, haction⟩ := (exists_decodeAction_iff_overlooked id).mpr haction
    obtain ⟨text, htext⟩ := (exists_decodeString_iff id "text").mpr htext
    obtain ⟨label, hlabel⟩ := (exists_decodeString_iff id "label").mpr hlabel
    obtain ⟨style, hstyle⟩ := (exists_decodeObject_iff id "style").mpr hstyle
    obtain ⟨labelStyle, hlabelStyle⟩ := (exists_decodeObject_iff id "labelStyle").mpr hlabelStyle
    exact ⟨⟨id, type, children, text, label, action, style, labelStyle, extensionsOf members⟩,
      decodeMembers_eq_ok_iff.mpr
        ⟨hid, htype, hchildren, haction, hstyle, hlabelStyle, htext, hlabel, rfl⟩⟩

/-- No problem of a component is referential. -/
theorem isStructural_of_mem_component {v : Json} {p : Problem}
    (hp : p ∈ Validation.component place v) : p.isStructural = true := by
  cases v with
  | obj members =>
    simp only [Validation.component, Validation.stringField, Validation.objectField,
      List.mem_append, Validation.mem_require] at hp
    -- one case for each field, in the order in which validation looks at them
    rcases hp with ((((((⟨-, rfl⟩ | ⟨-, rfl⟩) | hp) | hp) | ⟨-, rfl⟩) | ⟨-, rfl⟩) | ⟨-, rfl⟩) |
      ⟨-, rfl⟩
    · rfl
    · rfl
    · unfold Validation.children at hp
      split at hp
      · cases hp
      · split at hp
        · cases hp
        · obtain ⟨spot, cause⟩ := p
          rcases cause_of_mem_explicitList hp with rfl | rfl
          · rfl
          · rfl
      · obtain rfl := List.mem_singleton.mp hp
        rfl
    · cases ha : Record.get? members "action" with
      | none =>
        rw [ha] at hp
        cases hp
      | some v =>
        rw [ha, action_some_eq] at hp
        obtain ⟨-, rfl⟩ := Validation.mem_require.mp hp
        rfl
    · rfl
    · rfl
    · rfl
    · rfl
  | null | bool | num | str | arr =>
    obtain rfl := List.mem_singleton.mp hp
    rfl

/-- What decoding overlooks is reported. -/
theorem Overlooked.mem_component {p : Problem} (h : Overlooked place members p) :
    p ∈ Validation.component place (.obj members) := by
  obtain ⟨spot, cause⟩ := p
  cases cause with
  | children =>
    obtain ⟨rfl, hc⟩ := h
    simp [Validation.component, hc, Validation.children]
  | explicitList =>
    obtain ⟨rfl, list, hc, hl⟩ := h
    simp [Validation.component, hc, Validation.children, hl, Validation.explicitList]
  | action =>
    obtain ⟨rfl, ha⟩ := h
    simp [Validation.component, ha, Validation.action, Validation.eventOf]
  | _ => exact h.elim

/-- A component without a problem decodes. -/
theorem exists_decode_of_sound {v : Json} (h : Validation.component place v = []) :
    ∃ c, decode v = .ok c := by
  cases v with
  | obj members =>
    have hover : ∀ p ∈ Validation.component place (.obj members), Overlooked place members p := by
      rw [h]
      exact fun p hp => absurd hp List.not_mem_nil
    obtain ⟨c, hc⟩ := exists_decodeMembers_iff.mpr hover
    exact ⟨c, hc⟩
  | null | bool | num | str | arr => cases h

/-- A component that decodes has exactly the problems that decoding overlooks. -/
theorem mem_problems_iff_of_decode {v : Json} {c : Component} (h : decode v = .ok c) {p : Problem} :
    p ∈ Validation.component place v ↔ ∃ members, v = .obj members ∧ Overlooked place members p := by
  obtain ⟨members, rfl, hc⟩ := decode_eq_ok_iff.mp h
  constructor
  · intro hp
    exact ⟨members, rfl, exists_decodeMembers_iff.mp ⟨c, hc⟩ p hp⟩
  · rintro ⟨_, hmembers, hover⟩
    obtain rfl := Json.obj.inj hmembers
    exact hover.mem_component

end Component

/-! ## Messages -/

namespace Message

/-- A body that says to replace the whole data model: by the path of the root, or by no path and not
in the older form. -/
def ReplacesRoot (body : Record Json) : Prop :=
  Json.field body "path" = .str "/" ∨
    (Json.field body "path" = .null ∧
      ¬ (Record.has body "value" = false ∧ Record.has body "dataModel" = true))

/-- A problem of the body of a message that decoding overlooks: an overlooked problem of one of the
components, or a whole data model that is replaced by what is no object. -/
def OverlookedIn (place : String) (body : Record Json) (p : Problem) : MessageKind → Prop
  | .updateComponents =>
    ∃ (items : List Json) (j : Nat) (members : Record Json),
      Json.field body "components" = .arr items ∧ items[j]? = some (.obj members) ∧
        Component.Overlooked (Place.item (Place.member place "components") j) members p
  | .updateDataModel =>
    p = ⟨Place.member place "value", .rootValue⟩ ∧ ReplacesRoot body ∧
      (Json.field body "value").isObject = false
  | .createSurface | .deleteSurface => False

/-- A problem of an envelope that decoding overlooks. -/
def Overlooked (place : String) (members : Record Json) (p : Problem) : Prop :=
  ∃ (kind : MessageKind) (body : Record Json), Record.get? members kind.name = some (.obj body) ∧
    OverlookedIn (Place.member place kind.name) body p kind

/-! ### Bodies -/

variable {place : String} {body members : Record Json}

/-- Tokens decode just if validation finds nothing wrong with them. -/
theorem exists_decodeTokens_iff (place : String) {v : Json} :
    (∃ tokens, decodeTokens v = .ok tokens) ↔ Validation.tokens place v = [] := by
  cases v with
  | obj entries =>
    simp only [decodeTokens, Validation.tokens]
    -- the first token that is none ends decoding, and is a problem wherever it stands
    induction entries with
    | nil => simp [decodeTokenEntries]
    | cons e entries ih =>
      obtain ⟨name, v⟩ := e
      have htoken : Validation.isToken v = (decodeToken? v).isSome := by
        cases v with
        | obj t =>
          simp only [Validation.isToken, decodeToken?]
          cases Json.field t "value" <;> rfl
        | null | bool | num | str | arr => rfl
      rw [List.flatMap_cons, List.append_eq_nil_iff, ← ih, htoken]
      cases hv : decodeToken? v with
      | none => simp [decodeTokenEntries, hv, Validation.require]
      | some token =>
        simp only [decodeTokenEntries, hv, Fallible.map_eq_ok, Validation.require]
        constructor
        · rintro ⟨_, tokens, htokens, -⟩
          exact ⟨rfl, tokens, htokens⟩
        · rintro ⟨-, tokens, htokens⟩
          exact ⟨_, tokens, htokens, rfl⟩
  | null | bool | num | str | arr => simp [decodeTokens, Validation.tokens]

theorem mem_rootValue {v : Json} {p : Problem} :
    p ∈ Validation.rootValue place v ↔
      v.isObject = false ∧ p = ⟨Place.member place "value", .rootValue⟩ := Validation.mem_require

/-- A change of a data model decodes exactly if nothing is wrong with it beside the value that
replaces the whole. -/
theorem exists_decodeUpdate_iff (place : String) :
    (∃ update, decodeUpdate body = .ok update) ↔
      ∀ p ∈ Validation.modelUpdate place body, p = ⟨Place.member place "value", .rootValue⟩ := by
  unfold decodeUpdate Validation.modelUpdate
  -- the form of the update hangs on the path first, and then on the value
  cases hpath : Json.field body "path" with
  | null =>
    cases hvalue : Record.get? body "value" with
    | some v =>
      simp only [Record.has, hvalue, Option.isSome_some, Bool.not_true, Bool.false_and]
      constructor
      · rintro - p hp
        exact (mem_rootValue.mp hp).2
      · exact fun _ => ⟨_, rfl⟩
    | none =>
      cases hmodel : Record.get? body "dataModel" with
      | none =>
        simp only [Record.has, hvalue, hmodel]
        constructor
        · rintro - p hp
          exact (mem_rootValue.mp hp).2
        · exact fun _ => ⟨_, rfl⟩
      | some overlay =>
        cases overlay <;>
          simp [Record.has, hvalue, hmodel, Json.field, Validation.require, Json.isObject,
            Json.members?]
  | str path =>
    constructor
    · rintro - p hp
      dsimp only at hp
      split at hp
      · exact (mem_rootValue.mp hp).2
      · cases hp
    · exact fun _ => ⟨_, rfl⟩
  | bool | num | arr | obj => simp

/-- The value that replaces a whole data model is reported exactly if it is no object. -/
theorem rootValue_mem_modelUpdate_iff :
    (⟨Place.member place "value", .rootValue⟩ : Problem) ∈ Validation.modelUpdate place body ↔
      ReplacesRoot body ∧ (Json.field body "value").isObject = false := by
  unfold Validation.modelUpdate ReplacesRoot
  cases hpath : Json.field body "path" with
  | null =>
    cases hvalue : Record.has body "value" <;> cases hmodel : Record.has body "dataModel" <;>
      simp [mem_rootValue, Validation.mem_require]
  | str path => by_cases hroot : path = "/" <;> simp [hroot, mem_rootValue]
  | bool | num | arr | obj => simp

theorem isStructural_of_mem_tokens {v : Json} {p : Problem} (hp : p ∈ Validation.tokens place v) :
    p.isStructural = true := by
  cases v with
  | null => cases hp
  | obj entries =>
    obtain ⟨e, -, hp⟩ := List.mem_flatMap.mp hp
    obtain ⟨-, rfl⟩ := Validation.mem_require.mp hp
    rfl
  | bool | num | str | arr =>
    obtain rfl := List.mem_singleton.mp hp
    rfl

/-- No problem of a change of a data model is referential. -/
theorem isStructural_of_mem_modelUpdate {p : Problem}
    (hp : p ∈ Validation.modelUpdate place body) : p.isStructural = true := by
  unfold Validation.modelUpdate at hp
  split at hp
  · split at hp
    · obtain ⟨-, rfl⟩ := Validation.mem_require.mp hp
      rfl
    · obtain ⟨-, rfl⟩ := mem_rootValue.mp hp
      rfl
  · split at hp
    · obtain ⟨-, rfl⟩ := mem_rootValue.mp hp
      rfl
    · cases hp
  · obtain rfl := List.mem_singleton.mp hp
    rfl

/-- A body without a structural problem decodes. -/
theorem exists_decodeBody_of_sound {kind : MessageKind}
    (h : ∀ p ∈ Validation.messageBody kind place body, p.isStructural = false) :
    ∃ m, decodeBody kind body = .ok m := by
  obtain ⟨hsurface, hrest⟩ := List.forall_mem_append.mp h
  have hname : (Json.field body "surfaceId").isName = true := by
    cases hs : (Json.field body "surfaceId").isName with
    | true => rfl
    | false => cases hsurface _ (Validation.mem_require.mpr ⟨hs, rfl⟩)
  obtain ⟨id, hid⟩ := Json.isName_iff.mp hname
  -- where nothing structural is found nothing is found, but among components
  cases kind with
  | createSurface =>
    have hnone : Validation.tokens (Place.member place "designTokens")
        (Json.field body "designTokens") = [] :=
      eq_nil_of_structural (fun _ => isStructural_of_mem_tokens) hrest
    obtain ⟨tokens, htokens⟩ := (exists_decodeTokens_iff _).mpr hnone
    exact ⟨.createSurface id _ _ tokens, decodeBody_eq_ok_iff.mpr ⟨rfl, hid, rfl, rfl, htokens⟩⟩
  | updateComponents =>
    cases hitems : Json.field body "components" with
    | arr items =>
      rw [hitems] at hrest
      obtain ⟨hitemwise, -⟩ := List.forall_mem_append.mp hrest
      have hall : ∀ v ∈ items, ∃ c, Component.decode v = .ok c := by
        intro v hv
        obtain ⟨j, hj⟩ := List.mem_iff_getElem?.mp hv
        have hsound : ∀ p ∈ Validation.component
            (Place.item (Place.member place "components") j) v, p.isStructural = false := by
          intro p hp
          exact hitemwise p (Validation.mem_itemwise.mpr ⟨j, v, hj, hp⟩)
        have hnone :=
          eq_nil_of_structural (fun _ => Component.isStructural_of_mem_component) hsound
        exact Component.exists_decode_of_sound hnone
      obtain ⟨cs, hcs⟩ := exists_decodeComponents_iff.mpr hall
      exact ⟨.updateComponents id cs, decodeBody_eq_ok_iff.mpr ⟨rfl, hid, items, hitems, hcs⟩⟩
    | null | bool | num | str | obj =>
      rw [hitems] at hrest
      cases hrest _ (List.mem_singleton_self _)
  | updateDataModel =>
    have hnone : Validation.modelUpdate place body = [] :=
      eq_nil_of_structural (fun _ => isStructural_of_mem_modelUpdate) hrest
    have honly : ∀ p ∈ Validation.modelUpdate place body,
        p = ⟨Place.member place "value", .rootValue⟩ := by
      rw [hnone]
      exact fun p hp => absurd hp List.not_mem_nil
    obtain ⟨update, hupdate⟩ := (exists_decodeUpdate_iff _).mpr honly
    exact ⟨.updateDataModel id update, decodeBody_eq_ok_iff.mpr ⟨rfl, hid, hupdate⟩⟩
  | deleteSurface => exact ⟨.deleteSurface id, decodeBody_eq_ok_iff.mpr ⟨rfl, hid, trivial⟩⟩

/-- A body that decodes has exactly the structural problems that decoding overlooks. -/
theorem mem_problems_iff_of_decodeBody {kind : MessageKind} {m : Message}
    (h : decodeBody kind body = .ok m) {p : Problem} :
    (p ∈ Validation.messageBody kind place body ∧ p.isStructural = true) ↔
      OverlookedIn place body p kind := by
  obtain ⟨rfl, hid, hread⟩ := decodeBody_eq_ok_iff.mp h
  have hsurface : Validation.surfaceId m.kind place body = [] := by
    simp [Validation.surfaceId, Validation.require, Json.isName, hid]
  simp only [Validation.messageBody, hsurface, List.nil_append]
  cases m with
  | createSurface id catalogId sendDataModel tokens =>
    have hnone := (exists_decodeTokens_iff (Place.member place "designTokens")).mp ⟨_, hread.2.2⟩
    simp [Message.kind, hnone, OverlookedIn]
  | updateComponents id cs =>
    obtain ⟨items, hitems, hcs⟩ := hread
    have hall := exists_decodeComponents_iff.mp ⟨cs, hcs⟩
    simp only [Message.kind, hitems, Validation.components, List.mem_append, OverlookedIn]
    constructor
    · rintro ⟨hp | hp, hstructural⟩
      · obtain ⟨j, v, hj, hp⟩ := Validation.mem_itemwise.mp hp
        obtain ⟨c, hc⟩ := hall v (List.mem_of_getElem? hj)
        obtain ⟨members, rfl, hover⟩ := (Component.mem_problems_iff_of_decode hc).mp hp
        exact ⟨items, j, members, rfl, hj, hover⟩
      · -- references are not structural
        rw [Validation.isStructural_of_mem_references hp] at hstructural
        cases hstructural
    · rintro ⟨_, j, members, hsame, hj, hover⟩
      obtain rfl := Json.arr.inj hsame
      have hp := hover.mem_component
      exact ⟨Or.inl (Validation.mem_itemwise.mpr ⟨j, _, hj, hp⟩),
        Component.isStructural_of_mem_component hp⟩
  | updateDataModel id update =>
    have honly := (exists_decodeUpdate_iff place).mp ⟨_, hread⟩
    simp only [Message.kind, OverlookedIn]
    constructor
    · rintro ⟨hp, -⟩
      obtain rfl := honly p hp
      exact ⟨rfl, rootValue_mem_modelUpdate_iff.mp hp⟩
    · rintro ⟨rfl, hp⟩
      exact ⟨rootValue_mem_modelUpdate_iff.mpr hp, rfl⟩
  | deleteSurface id => simp [Message.kind, OverlookedIn]

/-! ### Envelopes -/

/-- An envelope without a structural problem decodes. -/
theorem exists_decode_of_sound {v : Json}
    (h : ∀ p ∈ Validation.message place v, p.isStructural = false) : ∃ m, decode v = .ok m := by
  cases v with
  | obj members =>
    simp only [Validation.message, decode, decodeMembers] at h ⊢
    -- an envelope that carries no kind, or two, has a structural problem
    cases hcarried : MessageKind.carriedBy members with
    | nil =>
      rw [hcarried] at h
      cases h _ (List.mem_singleton_self _)
    | cons kind kinds =>
      rw [hcarried] at h
      cases kinds with
      | nil =>
        cases hbody : Json.field members kind.name with
        | obj body =>
          simp only [hbody] at h ⊢
          exact exists_decodeBody_of_sound h
        | null | bool | num | str | arr =>
          simp only [hbody] at h
          cases h _ (List.mem_singleton_self _)
      | cons second rest => cases h _ (List.mem_singleton_self _)
  | null | bool | num | str | arr => cases h _ (List.mem_singleton_self _)

/-- An envelope that decodes is judged by the body of the one kind that it carries. -/
theorem problems_of_decodeMembers {m : Message} (h : decodeMembers members = .ok m) (place : String) :
    ∃ body, Record.get? members m.kind.name = some (.obj body) ∧ decodeBody m.kind body = .ok m ∧
      Validation.message place (.obj members) =
        Validation.messageBody m.kind (Place.member place m.kind.name) body := by
  obtain ⟨hkind, body, hbody, hid, hread⟩ := decodeMembers_eq_ok_iff.mp h
  refine ⟨body, hbody, decodeBody_eq_ok_iff.mpr ⟨rfl, hid, hread⟩, ?_⟩
  simp only [Validation.message, hkind, (Json.field_eq_iff (by simp)).mpr hbody]

/-- An envelope that decodes has exactly the structural problems that decoding overlooks. -/
theorem mem_problems_iff_of_decode {m : Message} (h : decode (.obj members) = .ok m) {p : Problem} :
    (p ∈ Validation.message place (.obj members) ∧ p.isStructural = true) ↔
      Overlooked place members p := by
  obtain ⟨hkind, -⟩ := decodeMembers_eq_ok_iff.mp h
  obtain ⟨body, hbody, hdecode, hmessage⟩ := problems_of_decodeMembers h place
  rw [hmessage, mem_problems_iff_of_decodeBody hdecode]
  constructor
  · intro hover
    exact ⟨m.kind, body, hbody, hover⟩
  · rintro ⟨kind, body', hbody', hover⟩
    -- an envelope carries no second kind
    have hcarried : kind ∈ MessageKind.carriedBy members := by
      cases kind <;> simp [MessageKind.carriedBy, MessageKind.all, Record.has, hbody']
    rw [hkind, List.mem_singleton] at hcarried
    subst hcarried
    obtain rfl := Json.obj.inj (Option.some.inj (hbody.symm.trans hbody'))
    exact hover

/-- A batch without a structural problem decodes as a whole. -/
theorem exists_decodeAll_of_sound {batch : Json}
    (h : ∀ p ∈ Validation.incremental batch, p.isStructural = false) :
    ∃ vs ms, batch = .arr vs ∧ decodeAll vs = .ok ms := by
  unfold Validation.incremental at h
  split at h
  · rename_i v vs
    have hall : ∀ w ∈ v :: vs, ∃ m, decode w = .ok m := by
      intro w hw
      obtain ⟨i, hi⟩ := List.mem_iff_getElem?.mp hw
      have hsound : ∀ p ∈ Validation.message (Place.message i) w, p.isStructural = false := by
        intro p hp
        exact h p (Validation.mem_itemwise.mpr ⟨i, w, hi, hp⟩)
      exact exists_decode_of_sound hsound
    obtain ⟨ms, hms⟩ := exists_decodeAll_iff.mpr hall
    exact ⟨v :: vs, ms, rfl, hms⟩
  · cases h _ (List.mem_singleton_self _)

end Message

/-- A complete batch has every problem that it has as a part of a stream. -/
theorem Validation.mem_complete_of_mem_incremental {batch : Json} {p : Problem}
    (hp : p ∈ incremental batch) : p ∈ complete batch := by
  unfold complete
  split
  · exact List.mem_append_left _ hp
  · exact hp

/-- What lacks nothing as a whole batch lacks nothing as a part of one. -/
theorem Validation.hasStructural_incremental {batch : Json}
    (h : hasStructural (complete batch) = false) : hasStructural (incremental batch) = false := by
  rw [hasStructural_eq_false_iff] at h ⊢
  exact fun p hp => h p (mem_complete_of_mem_incremental hp)

/-- Validation and decoding agree.  A value without a structural problem decodes; a value that
decodes is an object whose structural problems are exactly the overlooked ones; and a batch without a
structural problem, complete or not, decodes as a whole. -/
theorem validation_agrees_with_decoding :
    (∀ (place : String) (v : Json), hasStructural (Validation.message place v) = false →
      ∃ m, Message.decode v = .ok m) ∧
    (∀ (place : String) (v : Json) (m : Message), Message.decode v = .ok m →
      ∃ members, v = .obj members ∧ ∀ p,
        (p ∈ Validation.message place v ∧ p.isStructural = true) ↔
          Message.Overlooked place members p) ∧
    (∀ batch : Json,
      hasStructural (Validation.incremental batch) = false ∨
        hasStructural (Validation.complete batch) = false →
      ∃ vs ms, batch = .arr vs ∧ Message.decodeAll vs = .ok ms) := by
  refine ⟨?_, ?_, ?_⟩
  · intro place v hsound
    exact Message.exists_decode_of_sound (hasStructural_eq_false_iff.mp hsound)
  · intro place v m hm
    obtain ⟨members, rfl, -⟩ := Message.decode_eq_ok_iff.mp hm
    exact ⟨members, rfl, fun p => Message.mem_problems_iff_of_decode hm⟩
  · rintro batch (hsound | hsound)
    · exact Message.exists_decodeAll_of_sound (hasStructural_eq_false_iff.mp hsound)
    · apply Message.exists_decodeAll_of_sound
      intro p hp
      exact hasStructural_eq_false_iff.mp hsound p (Validation.mem_complete_of_mem_incremental hp)

/-- Null children decode as no children although they are a structural problem. -/
theorem null_children_overlooked :
    let members : Record Json := [("updateComponents", .obj [("surfaceId", .str "s"),
      ("components", .arr [.obj [("id", .str "root"), ("component", .str "Row"),
        ("children", .null)]])])]
    let m : Message := .updateComponents "s" [⟨"root", "Row", none, none, none, none, none, none, []⟩]
    hasStructural (Validation.message "e" (.obj members)) = true ∧
      Message.decode (.obj members) = .ok m ∧
      ∀ p ∈ Validation.message "e" (.obj members), p.isStructural = true →
        Message.Overlooked "e" members p := by
  intro members m
  have hdecode : Message.decode (.obj members) = .ok m := by rfl
  refine ⟨by decide +kernel, hdecode, fun p hp hstructural => ?_⟩
  obtain ⟨_, hmembers, hiff⟩ := validation_agrees_with_decoding.2.1 "e" (.obj members) m hdecode
  obtain rfl := Json.obj.inj hmembers
  exact (hiff p).mp ⟨hp, hstructural⟩

end UiSurface
