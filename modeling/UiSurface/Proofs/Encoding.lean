import UiSurface.Proofs.Decoding
import UiSurface.Proofs.Records

/-!
# Encoding and decoding do not change a message

A message that came from an envelope is sound: its surface and its components have names, its
actions have named events, and no extension takes the name of a field.  A sound message is what its
own envelope decodes to.

Main lemmas: `Message.sound_of_decodeMembers` (what decodes is sound), `Message.decode_encode` (a sound
message comes back from its envelope).
-/

namespace UiSurface

/-! ## Components -/

namespace Component

/-- A component that an envelope can hold. -/
structure Sound (c : Component) : Prop where
  id_ne : c.id ≠ ""
  type_ne : c.type ≠ ""
  event_ne : ∀ a, c.action = some a → a.event ≠ ""
  extension : ∀ e ∈ c.extensions, e.1 ∉ knownKeys

/-- What is decoded is sound. -/
theorem sound_of_decodeMembers {members : Record Json} {c : Component}
    (h : decodeMembers members = .ok c) : c.Sound := by
  obtain ⟨hid, htype, -, haction, -, -, -, -, hextensions⟩ := decodeMembers_eq_ok_iff.mp h
  refine ⟨(Json.name?_eq_some_iff.mp hid).2, (Json.name?_eq_some_iff.mp htype).2, ?_, ?_⟩
  · intro a ha
    rw [ha] at haction
    rcases decodeAction_eq_ok_iff.mp haction with ⟨-, hnone⟩ | ⟨-, name, hname, hsome⟩
    · cases hnone
    · obtain rfl := Option.some.inj hsome
      exact (Json.name?_eq_some_iff.mp hname).2
  · intro e he
    rw [← hextensions, extensionsOf, List.mem_filter] at he
    simpa using he.2

theorem sound_of_decode {v : Json} {c : Component} (h : decode v = .ok c) : c.Sound := by
  obtain ⟨members, -, hc⟩ := decode_eq_ok_iff.mp h
  exact sound_of_decodeMembers hc

/-! ### Members of an encoded component -/

/-- An optional member stands under its own name, if at all. -/
theorem get?_member? (key other : String) (v : Option Json) :
    Record.get? (member? key v) other = if key = other then v else none := by
  cases v with
  | none => simp [member?]
  | some v => simp [member?, Record.get?]

/-- Under the name of a field an encoded component has that field and no extension. -/
theorem get?_extensions {c : Component} (h : c.Sound) {key : String} (hkey : key ∈ knownKeys) :
    Record.get? c.extensions key = none := by
  rw [Record.get?_eq_none_iff]
  intro hmem
  obtain ⟨e, he, rfl⟩ := List.mem_map.mp hmem
  exact h.extension e he hkey

/-- The extensions of an encoded component are those of the component. -/
theorem extensionsOf_encodeMembers {c : Component} (h : c.Sound) :
    extensionsOf c.encodeMembers = c.extensions := by
  have hmember : ∀ key ∈ knownKeys, ∀ v : Option Json,
      (member? key v).filter (fun m => !knownKeys.contains m.1) = [] := by
    intro key hkey v
    cases v with
    | none => rfl
    | some v => simp [member?, hkey]
  have hextensions : c.extensions.filter (fun m => !knownKeys.contains m.1) = c.extensions := by
    rw [List.filter_eq_self]
    intro e he
    simpa using h.extension e he
  simp only [extensionsOf, encodeMembers, List.filter_append, hextensions]
  rw [hmember "children" (by decide), hmember "text" (by decide), hmember "label" (by decide),
    hmember "action" (by decide), hmember "style" (by decide), hmember "labelStyle" (by decide)]
  rfl

/-- Each field stands in the one place where it is written, and stands there only if it is there. -/
theorem get?_encodeMembers {c : Component} (h : c.Sound) :
    Record.get? c.encodeMembers "children" = c.children.map encodeChildren ∧
    Record.get? c.encodeMembers "action" = c.action.map encodeAction ∧
    Record.get? c.encodeMembers "style" = c.style.map .obj ∧
    Record.get? c.encodeMembers "labelStyle" = c.labelStyle.map .obj ∧
    Record.get? c.encodeMembers "text" = c.text.map .str ∧
    Record.get? c.encodeMembers "label" = c.label.map .str := by
  have hchildren := get?_extensions h (by decide : "children" ∈ knownKeys)
  have haction := get?_extensions h (by decide : "action" ∈ knownKeys)
  have hstyle := get?_extensions h (by decide : "style" ∈ knownKeys)
  have hlabelStyle := get?_extensions h (by decide : "labelStyle" ∈ knownKeys)
  have htext := get?_extensions h (by decide : "text" ∈ knownKeys)
  have hlabel := get?_extensions h (by decide : "label" ∈ knownKeys)
  refine ⟨?_, ?_, ?_, ?_, ?_, ?_⟩
  · simp [encodeMembers, Record.get?, Record.get?_append, get?_member?, hchildren]
  · simp [encodeMembers, Record.get?, Record.get?_append, get?_member?, haction]
  · simp [encodeMembers, Record.get?, Record.get?_append, get?_member?, hstyle]
  · simp [encodeMembers, Record.get?, Record.get?_append, get?_member?, hlabelStyle]
  · simp [encodeMembers, Record.get?, Record.get?_append, get?_member?, htext]
  · simp [encodeMembers, Record.get?, Record.get?_append, get?_member?, hlabel]

/-- Each field is read back from the one place where it is written. -/
theorem field_encodeMembers {c : Component} (h : c.Sound) :
    Json.field c.encodeMembers "id" = .str c.id ∧
    typeField c.encodeMembers = .str c.type ∧
    Json.field c.encodeMembers "children" = (c.children.map encodeChildren).getD .null ∧
    Json.field c.encodeMembers "action" = (c.action.map encodeAction).getD .null ∧
    Json.field c.encodeMembers "style" = (c.style.map .obj).getD .null ∧
    Json.field c.encodeMembers "labelStyle" = (c.labelStyle.map .obj).getD .null ∧
    Json.field c.encodeMembers "text" = (c.text.map .str).getD .null ∧
    Json.field c.encodeMembers "label" = (c.label.map .str).getD .null := by
  obtain ⟨hchildren, haction, hstyle, hlabelStyle, htext, hlabel⟩ := get?_encodeMembers h
  simp only [Json.field, hchildren, haction, hstyle, hlabelStyle, htext, hlabel, and_true]
  exact ⟨rfl, rfl⟩

/-! ### Fields of an encoded component -/

/-- A list of children is read again from what it is written as. -/
theorem decodeChildren_encode (id : String) (children : Option ChildList) :
    decodeChildren id ((children.map encodeChildren).getD .null) = .ok children := by
  rw [decodeChildren_eq_ok_iff]
  cases children with
  | none => exact Or.inl ⟨rfl, rfl⟩
  | some list =>
    obtain ⟨explicit, template⟩ := list
    refine Or.inr ⟨_, explicit, rfl, ?_, ?_⟩
    · -- the two members have different names, so neither hides the other
      have htemplate : Json.field
          (member? "explicitList" (explicit.map (fun ids => .arr (ids.map .str))) ++
            member? "template" (template.map encodeTemplate)) "template" =
          (template.map encodeTemplate).getD .null := by
        simp [Json.field, Record.get?_append, get?_member?]
      simp only [templateOf, htemplate]
      cases template with
      | none => rfl
      | some t => rfl
    · have hexplicit : Json.field
          (member? "explicitList" (explicit.map (fun ids => .arr (ids.map .str))) ++
            member? "template" (template.map encodeTemplate)) "explicitList" =
          (explicit.map (fun ids => Json.arr (ids.map .str))).getD .null := by
        simp [Json.field, Record.get?_append, get?_member?]
      rw [hexplicit]
      cases explicit with
      | none => exact Or.inl ⟨rfl, rfl⟩
      | some ids => exact Or.inr ⟨ids, idList?_eq_some_iff.mpr rfl, rfl⟩

/-- An action is read again from what it is written as, if its event has a name. -/
theorem decodeAction_encode (id : String) {action : Option Action}
    (h : ∀ a, action = some a → a.event ≠ "") :
    decodeAction id ((action.map encodeAction).getD .null) = .ok action := by
  rw [decodeAction_eq_ok_iff]
  cases action with
  | none => exact Or.inl ⟨rfl, rfl⟩
  | some a =>
    obtain ⟨event, context⟩ := a
    refine Or.inr ⟨by simp [encodeAction], event, Json.name?_eq_some_iff.mpr ⟨rfl, h _ rfl⟩, ?_⟩
    cases context with
    | none => rfl
    | some context => rfl

/-- A field that holds an object or nothing is read again. -/
theorem decodeObject_encode (id field : String) (o : Option (Record Json)) :
    decodeObject id field ((o.map .obj).getD .null) = .ok o := by
  cases o <;> rfl

/-- A field that holds a string or nothing is read again. -/
theorem decodeString_encode (id field : String) (s : Option String) :
    decodeString id field ((s.map .str).getD .null) = .ok s := by
  cases s <;> rfl

/-- A sound component comes back from its members. -/
theorem decodeMembers_encodeMembers {c : Component} (h : c.Sound) :
    decodeMembers c.encodeMembers = .ok c := by
  obtain ⟨hid, htype, hchildren, haction, hstyle, hlabelStyle, htext, hlabel⟩ :=
    field_encodeMembers h
  rw [decodeMembers_eq_ok_iff, hid, htype, hchildren, haction, hstyle, hlabelStyle, htext, hlabel]
  exact ⟨Json.name?_eq_some_iff.mpr ⟨rfl, h.id_ne⟩, Json.name?_eq_some_iff.mpr ⟨rfl, h.type_ne⟩,
    decodeChildren_encode _ _, decodeAction_encode _ h.event_ne, decodeObject_encode _ _ _,
    decodeObject_encode _ _ _, decodeString_encode _ _ _, decodeString_encode _ _ _,
    extensionsOf_encodeMembers h⟩

theorem decode_encode {c : Component} (h : c.Sound) : decode c.encode = .ok c :=
  decodeMembers_encodeMembers h

end Component

/-! ## Messages -/

namespace Message

/-- A message that an envelope can hold. -/
structure Sound (m : Message) : Prop where
  surface_ne : m.surface ≠ ""
  component : ∀ id cs, m = updateComponents id cs → ∀ c ∈ cs, c.Sound

/-- What decodes is sound. -/
theorem sound_of_decodeMembers {members : Record Json} {m : Message}
    (h : decodeMembers members = .ok m) : m.Sound := by
  obtain ⟨-, body, -, hid, hread⟩ := decodeMembers_eq_ok_iff.mp h
  refine ⟨(Json.name?_eq_some_iff.mp hid).2, ?_⟩
  rintro id cs rfl c hc
  obtain ⟨items, -, hcs⟩ := hread
  have hmem : (Except.ok c : Except Component.Fault Component) ∈ items.map Component.decode := by
    rw [decodeComponents_eq_ok_iff.mp hcs]
    exact List.mem_map_of_mem hc
  obtain ⟨v, -, hv⟩ := List.mem_map.mp hmem
  exact Component.sound_of_decode hv

/-- Tokens are read again from what they are written as. -/
theorem decodeTokens_encode (tokens : TokenTable) :
    decodeTokens (.obj (Record.mapValues encodeToken tokens)) = .ok tokens := by
  rw [decodeTokens, decodeTokenEntries_eq_ok_iff]
  simp only [Record.mapValues, List.map_map]
  apply List.map_congr_left
  rintro ⟨name, token⟩ -
  rfl

theorem get?_unlessNull (key other : String) (v : Json) :
    Record.get? (unlessNull key v) other = if key = other ∧ v ≠ .null then some v else none := by
  by_cases hv : v = .null
  · simp [unlessNull, hv, Json.isNull]
  · have hnull : v.isNull = false := by
      cases v <;> first | rfl | exact absurd rfl hv
    by_cases hk : key = other
    · simp [unlessNull, hnull, hv, Record.get?, hk]
    · simp [unlessNull, hnull, Record.get?, hk]

/-- Sound components are read again, one after the other. -/
theorem decodeComponents_encode {cs : List Component} (h : ∀ c ∈ cs, c.Sound) :
    decodeComponents (cs.map Component.encode) = .ok cs := by
  rw [decodeComponents_eq_ok_iff, List.map_map]
  exact List.map_congr_left fun c hc => Component.decode_encode (h c hc)

/-- The body of a message says the message. -/
theorem readFrom_encodeBody {m : Message} (h : m.Sound) : m.ReadFrom m.encodeBody := by
  -- a field that is null or empty is left out, and decodes to null or empty again
  cases m with
  | createSurface id catalogId sendDataModel tokens =>
    refine ⟨?_, ?_, ?_⟩
    · by_cases hnull : catalogId = .null <;> by_cases hempty : tokens = [] <;>
        simp [Json.field, encodeBody, Record.get?, Record.get?_append, get?_unlessNull, hnull, hempty]
    · by_cases hnull : sendDataModel = .null <;> by_cases hempty : tokens = [] <;>
        simp [Json.field, encodeBody, Record.get?, Record.get?_append, get?_unlessNull, hnull, hempty]
    · by_cases hempty : tokens = []
      · simp [Json.field, encodeBody, Record.get?, Record.get?_append, get?_unlessNull, hempty,
          decodeTokens]
      · have hfield : Json.field (encodeBody (createSurface id catalogId sendDataModel tokens))
            "designTokens" = .obj (Record.mapValues encodeToken tokens) := by
          simp [Json.field, encodeBody, Record.get?, Record.get?_append, get?_unlessNull, hempty]
        rw [hfield, decodeTokens_encode]
  | updateComponents id cs =>
    exact ⟨cs.map Component.encode, rfl, decodeComponents_encode (h.component id cs rfl)⟩
  | updateDataModel id update =>
    cases update with
    | write path value =>
      cases path with
      | none => rfl
      | some path => rfl
    | overlay entries => rfl
  | deleteSurface id => trivial

/-- A sound message comes back from its envelope. -/
theorem decode_encode {m : Message} (h : m.Sound) : decode m.encode = .ok m := by
  have hsurface : (Json.field m.encodeBody "surfaceId").name? = some m.surface := by
    have hfield : Json.field m.encodeBody "surfaceId" = .str m.surface := by
      cases m with
      | updateDataModel id update => cases update <;> rfl
      | createSurface | updateComponents | deleteSurface => rfl
    exact Json.name?_eq_some_iff.mpr ⟨hfield, h.surface_ne⟩
  apply decodeMembers_eq_ok_iff.mpr
  refine ⟨?_, m.encodeBody, by simp [Record.get?], hsurface, readFrom_encodeBody h⟩
  cases m.kind <;> rfl

end Message

end UiSurface
