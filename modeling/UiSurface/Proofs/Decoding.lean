import UiSurface.Message.Decode

/-!
# What decoding accepts

A decoder reads field after field and stops at the first fault.  Here each decoder is told by the
fields of its result: a component or a message is decoded exactly if every field of it is what the
members say.  No proof further on opens a decoder.

Main lemmas: `Component.decodeMembers_eq_ok_iff` (a component by its fields),
`Message.decodeMembers_eq_ok_iff` (a message by the one member of its envelope, read as
`Message.ReadFrom` says), `Message.decodeAll_eq_ok_iff` (a batch item by item).
-/

namespace UiSurface

/-! ## Steps that may fail -/

namespace Fallible

variable {ε α β : Type}

/-- Two steps succeed exactly if the first does and the second does after it. -/
theorem bind_eq_ok {x : Except ε α} {f : α → Except ε β} {b : β} :
    (x >>= f) = .ok b ↔ ∃ a, x = .ok a ∧ f a = .ok b := by
  cases x with
  | error fault => simp [bind, Except.bind]
  | ok a => simp [bind, Except.bind]

/-- A result that was changed comes from a result. -/
theorem map_eq_ok {x : Except ε α} {f : α → β} {b : β} :
    x.map f = .ok b ↔ ∃ a, x = .ok a ∧ f a = b := by
  cases x with
  | error fault => simp [Except.map]
  | ok a => simp [Except.map]

/-- Two steps give the same if both fail alike, or both succeed with what is made the same of. -/
theorem map_eq_map_iff {γ : Type} {x : Except ε α} {y : Except ε β} {f : α → γ} {g : β → γ} :
    x.map f = y.map g ↔
      (∃ fault, x = .error fault ∧ y = .error fault) ∨ ∃ a b, x = .ok a ∧ y = .ok b ∧ f a = g b := by
  cases x <;> cases y <;> simp [Except.map, eq_comm]

/-- A list read item by item begins with the first item and goes on with the others. -/
theorem map_cons_eq_ok {x : Except ε (List α)} {a b : α} {bs : List α} :
    x.map (a :: ·) = .ok (b :: bs) ↔ a = b ∧ x = .ok bs := by
  rw [map_eq_ok]
  constructor
  · rintro ⟨as, hx, h⟩
    obtain ⟨rfl, rfl⟩ := List.cons.inj h
    exact ⟨rfl, hx⟩
  · rintro ⟨rfl, hx⟩
    exact ⟨bs, hx, rfl⟩

theorem map_cons_ne_nil {x : Except ε (List α)} {a : α} : x.map (a :: ·) ≠ .ok [] := by
  rw [Ne, map_eq_ok]
  simp

/-- A result is there just if there was no fault. -/
theorem toOption_eq_some_iff {x : Except ε α} {a : α} : x.toOption = some a ↔ x = .ok a := by
  cases x <;> simp [Except.toOption]

/-- A step succeeds on every item exactly if there is a list of what it makes of them. -/
theorem exists_map_eq_map_ok_iff {f : α → Except ε β} {as : List α} :
    (∃ bs : List β, as.map f = bs.map .ok) ↔ ∀ a ∈ as, ∃ b, f a = .ok b := by
  constructor
  · rintro ⟨bs, hbs⟩ a ha
    have hmem : f a ∈ bs.map .ok := hbs ▸ List.mem_map_of_mem ha
    obtain ⟨b, -, hb⟩ := List.mem_map.mp hmem
    exact ⟨b, hb.symm⟩
  · intro h
    induction as with
    | nil => exact ⟨[], rfl⟩
    | cons a as ih =>
      obtain ⟨b, hb⟩ := h a (by simp)
      obtain ⟨bs, hbs⟩ := ih (fun x hx => h x (by simp [hx]))
      exact ⟨b :: bs, by simp [hb, hbs]⟩

/-- What an item tells by itself it tells of what a step makes of it, for all items of a list. -/
theorem filterMap_eq_map {γ : Type} {f : α → Except ε β} {tell : α → Option γ} {told : β → γ}
    (h : ∀ {a b}, f a = .ok b → tell a = some (told b)) {as : List α} {bs : List β}
    (hab : as.map f = bs.map .ok) : as.filterMap tell = bs.map told := by
  induction as generalizing bs with
  | nil =>
    obtain rfl : bs = [] := by simpa using hab.symm
    rfl
  | cons a as ih =>
    cases bs with
    | nil => cases hab
    | cons b bs =>
      obtain ⟨ha, has⟩ := List.cons.inj hab
      rw [List.filterMap_cons_some (h ha), ih has, List.map_cons]

/-- What an item and what a step makes of it tell alike, they tell alike for all items of a list. -/
theorem map_eq_map {γ : Type} {f : α → Except ε β} {tell : α → γ} {told : β → γ}
    (h : ∀ {a b}, f a = .ok b → tell a = told b) {as : List α} {bs : List β}
    (hab : as.map f = bs.map .ok) : as.map tell = bs.map told := by
  have hsome : as.filterMap (fun a => some (tell a)) = bs.map told :=
    filterMap_eq_map (fun hf => congrArg some (h hf)) hab
  rw [← hsome]
  exact (congrFun (List.filterMap_eq_map (f := tell)) as).symm

/-- Where a step succeeds on every item, so it does on all in order. -/
theorem mapM_eq_ok {f : α → Except ε β} {as : List α} {bs : List β} (h : as.map f = bs.map .ok) :
    as.mapM f = .ok bs := by
  induction as generalizing bs with
  | nil =>
    obtain rfl : bs = [] := by simpa using h.symm
    rfl
  | cons a as ih =>
    cases bs with
    | nil => cases h
    | cons b bs =>
      obtain ⟨ha, has⟩ := List.cons.inj h
      rw [List.mapM_cons, ha, ih has]
      rfl

/-- A step succeeds on all items of a list, one after the other, exactly if it does on each. -/
theorem exists_mapM_iff {f : α → Except ε β} {as : List α} :
    (∃ bs, as.mapM f = .ok bs) ↔ ∀ a ∈ as, ∃ b, f a = .ok b := by
  constructor
  · intro h
    induction as with
    | nil => exact nofun
    | cons a as ih =>
      simp only [List.mapM_cons, bind_eq_ok] at h
      obtain ⟨bs, b, hb, rest, hrest, -⟩ := h
      exact List.forall_mem_cons.mpr ⟨⟨b, hb⟩, ih ⟨rest, hrest⟩⟩
  · intro h
    obtain ⟨bs, hbs⟩ := exists_map_eq_map_ok_iff.mpr h
    exact ⟨bs, mapM_eq_ok hbs⟩

end Fallible

/-! ## Members -/

namespace Json

/-- A member that reads as a value other than null is there. -/
theorem field_eq_iff {members : Record Json} {key : String} {v : Json} (hv : v ≠ .null) :
    field members key = v ↔ Record.get? members key = some v := by
  unfold field
  cases Record.get? members key with
  | none => simpa using Ne.symm hv
  | some w => simp

theorem name?_eq_some_iff {v : Json} {s : String} : v.name? = some s ↔ v = .str s ∧ s ≠ "" := by
  cases v with
  | str t =>
    simp only [name?, Option.ite_none_left_eq_some, Option.some.injEq, str.injEq,
      String.isEmpty_iff]
    constructor
    · rintro ⟨ht, rfl⟩
      exact ⟨rfl, ht⟩
    · rintro ⟨rfl, ht⟩
      exact ⟨ht, rfl⟩
  | null | bool | num | arr | obj => simp [name?]

theorem isName_iff {v : Json} : v.isName = true ↔ ∃ s, v.name? = some s := Option.isSome_iff_exists

theorem isString_iff {v : Json} : v.isString = true ↔ ∃ s, v = .str s := by
  cases v <;> simp [isString, text?]

end Json

/-! ## Components -/

namespace Component

/-- A list of ids is an array of strings, and nothing else. -/
theorem idList?_eq_some_iff {v : Json} {ids : List String} :
    idList? v = some ids ↔ v = .arr (ids.map .str) := by
  cases v with
  | arr items =>
    simp only [idList?, Json.arr.injEq]
    -- item by item, each of which is a text or ends the list
    induction items generalizing ids with
    | nil =>
      cases ids with
      | nil => simp
      | cons i is => simp
    | cons v vs ih =>
      rw [List.mapM_cons]
      cases v with
      | str s =>
        cases ids with
        | nil => simp [Json.text?, Option.bind_eq_some_iff]
        | cons i is =>
          simp only [Json.text?, List.map_cons, List.cons.injEq, Json.str.injEq, ← ih]
          cases List.mapM Json.text? vs <;> simp [eq_comm]
      | null | bool | num | arr | obj => cases ids <;> simp [Json.text?]
  | null | bool | num | str | obj => simp [idList?]

/-- The template among the members of a list of children; one that is no object is none. -/
def templateOf (list : Record Json) : Option ChildTemplate :=
  match Json.field list "template" with
  | .obj t => some ⟨templateText t "dataPath", templateText t "componentId"⟩
  | _ => none

/-- Children are decoded from nothing or from an object, whose list of ids may be missing. -/
theorem decodeChildren_eq_ok_iff {id : String} {v : Json} {r : Option ChildList} :
    decodeChildren id v = .ok r ↔
      (v = .null ∧ r = none) ∨
      ∃ list explicit, v = .obj list ∧ r = some ⟨explicit, templateOf list⟩ ∧
        ((Json.field list "explicitList" = .null ∧ explicit = none) ∨
          ∃ ids, idList? (Json.field list "explicitList") = some ids ∧ explicit = some ids) := by
  cases v with
  | null => simp [decodeChildren, eq_comm]
  | obj list =>
    simp only [reduceCtorEq, false_and, false_or, Json.obj.injEq]
    -- the explicit list decides: it is a list of ids, or null, or a fault
    cases hids : idList? (Json.field list "explicitList") with
    | some ids =>
      have he := idList?_eq_some_iff.mp hids
      simp only [decodeChildren, he, idList?_eq_some_iff.mpr rfl]
      constructor
      · intro h
        exact ⟨list, some ids, rfl, (Except.ok.inj h).symm, Or.inr ⟨ids, hids, rfl⟩⟩
      · rintro ⟨_, explicit, rfl, rfl, ⟨hnull, -⟩ | ⟨ids', hids', rfl⟩⟩
        · simp [he] at hnull
        · rw [hids] at hids'
          rw [← Option.some.inj hids']
          rfl
    | none =>
      constructor
      · intro h
        simp only [decodeChildren] at h
        split at h
        · rename_i hnull
          exact ⟨list, none, rfl, (Except.ok.inj h).symm, Or.inl ⟨hnull, rfl⟩⟩
        · rw [hids] at h
          cases h
      · rintro ⟨_, explicit, rfl, rfl, ⟨hnull, rfl⟩ | ⟨ids', hids', rfl⟩⟩
        · simp only [decodeChildren, hnull]
          rfl
        · simp [hids] at hids'
  | bool | num | str | arr => simp [decodeChildren]

/-- An action is decoded from nothing or from a value with a named event. -/
theorem decodeAction_eq_ok_iff {id : String} {v : Json} {r : Option Action} :
    decodeAction id v = .ok r ↔
      (v = .null ∧ r = none) ∨
      (v ≠ .null ∧ ∃ name, (Json.field (eventMembers v) "name").name? = some name ∧
        r = some ⟨name, (Json.field (eventMembers v) "context").members?⟩) := by
  by_cases hnull : v = .null
  · subst hnull
    simp [decodeAction, eq_comm]
  · -- anything but null is an action, and needs a name for its event
    cases hname : (Json.field (eventMembers v) "name").name? with
    | none =>
      have hdecode : decodeAction id v = .error (.action id) := by
        cases v <;> first | exact absurd rfl hnull | simp only [decodeAction, hname]
      rw [hdecode]
      simp [hnull]
    | some name =>
      have hdecode : decodeAction id v =
          .ok (some ⟨name, (Json.field (eventMembers v) "context").members?⟩) := by
        cases v <;> first | exact absurd rfl hnull | simp only [decodeAction, hname]
      rw [hdecode]
      simp [hnull, eq_comm]

/-- A component is decoded exactly if each of its fields is decoded from its member. -/
theorem decodeMembers_eq_ok_iff {members : Record Json} {c : Component} :
    decodeMembers members = .ok c ↔
      (Json.field members "id").name? = some c.id ∧
      (typeField members).name? = some c.type ∧
      decodeChildren c.id (Json.field members "children") = .ok c.children ∧
      decodeAction c.id (Json.field members "action") = .ok c.action ∧
      decodeObject c.id "style" (Json.field members "style") = .ok c.style ∧
      decodeObject c.id "labelStyle" (Json.field members "labelStyle") = .ok c.labelStyle ∧
      decodeString c.id "text" (Json.field members "text") = .ok c.text ∧
      decodeString c.id "label" (Json.field members "label") = .ok c.label ∧
      extensionsOf members = c.extensions := by
  obtain ⟨id, type, children, text, label, action, style, labelStyle, extensions⟩ := c
  unfold decodeMembers
  cases hid : (Json.field members "id").name? with
  | none => simp
  | some id' =>
    cases htype : (typeField members).name? with
    | none => simp
    | some type' =>
      -- each step of the decoding gives the field that it is asked for
      simp only [Fallible.bind_eq_ok, pure, Except.pure, Except.ok.injEq, Component.mk.injEq,
        Option.some.injEq]
      constructor
      · rintro ⟨ch, hch, ac, hac, st, hst, ls, hls, te, hte, la, hla, rfl, rfl, rfl, rfl, rfl, rfl,
          rfl, rfl, rfl⟩
        exact ⟨rfl, rfl, hch, hac, hst, hls, hte, hla, rfl⟩
      · rintro ⟨rfl, rfl, hch, hac, hst, hls, hte, hla, rfl⟩
        exact ⟨_, hch, _, hac, _, hst, _, hls, _, hte, _, hla, rfl, rfl, rfl, rfl, rfl, rfl, rfl,
          rfl, rfl⟩

/-- Only objects decode to components. -/
theorem decode_eq_ok_iff {v : Json} {c : Component} :
    decode v = .ok c ↔ ∃ members, v = .obj members ∧ decodeMembers members = .ok c := by
  cases v <;> simp [decode]

end Component

/-! ## Messages -/

namespace Message

/-- Tokens are decoded one by one, all or none, and keep their names. -/
theorem decodeTokenEntries_eq_ok_iff {entries : List (String × Json)} {tokens : TokenTable} :
    decodeTokenEntries entries = .ok tokens ↔
      Record.mapValues decodeToken? entries = Record.mapValues some tokens := by
  induction entries generalizing tokens with
  | nil => cases tokens <;> simp [decodeTokenEntries, Record.mapValues]
  | cons e entries ih =>
    obtain ⟨name, v⟩ := e
    simp only [Record.mapValues] at ih ⊢
    cases hv : decodeToken? v with
    | none => cases tokens <;> simp [decodeTokenEntries, hv]
    | some token =>
      cases tokens with
      | nil => simp [decodeTokenEntries, hv, Fallible.map_cons_ne_nil]
      | cons t tokens =>
        simp [decodeTokenEntries, hv, Fallible.map_cons_eq_ok, ih, Prod.ext_iff]

/-- Components are decoded one by one, all or none. -/
theorem decodeComponents_eq_ok_iff {vs : List Json} {cs : List Component} :
    decodeComponents vs = .ok cs ↔ vs.map Component.decode = cs.map .ok := by
  induction vs generalizing cs with
  | nil => cases cs <;> simp [decodeComponents]
  | cons v vs ih =>
    cases hv : Component.decode v with
    | error fault => cases cs <;> simp [decodeComponents, hv]
    | ok c =>
      cases cs with
      | nil => simp [decodeComponents, hv, Fallible.map_cons_ne_nil]
      | cons c' cs => simp [decodeComponents, hv, Fallible.map_cons_eq_ok, ih]

/-- Components decode together just if each of them does. -/
theorem exists_decodeComponents_iff {vs : List Json} :
    (∃ cs, decodeComponents vs = .ok cs) ↔ ∀ v ∈ vs, ∃ c, Component.decode v = .ok c := by
  simp only [decodeComponents_eq_ok_iff, Fallible.exists_map_eq_map_ok_iff]

/-- What the members of a body say beside the surface id. -/
def ReadFrom (body : Record Json) : Message → Prop
  | createSurface _ catalogId sendDataModel tokens =>
    Json.field body "catalogId" = catalogId ∧ Json.field body "sendDataModel" = sendDataModel ∧
      decodeTokens (Json.field body "designTokens") = .ok tokens
  | updateComponents _ cs =>
    ∃ items, Json.field body "components" = .arr items ∧ decodeComponents items = .ok cs
  | updateDataModel _ update => decodeUpdate body = .ok update
  | deleteSurface _ => True

/-- A body is decoded exactly if it names the surface and says the rest of the message. -/
theorem decodeBody_eq_ok_iff {kind : MessageKind} {body : Record Json} {m : Message} :
    decodeBody kind body = .ok m ↔
      m.kind = kind ∧ (Json.field body "surfaceId").name? = some m.surface ∧ m.ReadFrom body := by
  unfold decodeBody
  cases hid : (Json.field body "surfaceId").name? with
  | none => simp
  | some id =>
    -- one case for each kind; a message of another kind is not what the body decodes to
    cases kind with
    | createSurface =>
      simp only [Fallible.map_eq_ok]
      constructor
      · rintro ⟨tokens, htokens, rfl⟩
        exact ⟨rfl, rfl, rfl, rfl, htokens⟩
      · rintro ⟨hkind, hname, hread⟩
        cases m <;> simp only [Message.kind, reduceCtorEq] at hkind
        obtain rfl := Option.some.inj hname
        obtain ⟨rfl, rfl, htokens⟩ := hread
        exact ⟨_, htokens, rfl⟩
    | updateComponents =>
      dsimp only
      constructor
      · split
        · rename_i items hitems
          rw [Fallible.map_eq_ok]
          rintro ⟨cs, hcs, rfl⟩
          exact ⟨rfl, rfl, items, hitems, hcs⟩
        · simp
      · rintro ⟨hkind, hname, hread⟩
        cases m <;> simp only [Message.kind, reduceCtorEq] at hkind
        obtain rfl := Option.some.inj hname
        obtain ⟨items, hitems, hcs⟩ := hread
        simp only [hitems, Fallible.map_eq_ok]
        exact ⟨_, hcs, rfl⟩
    | updateDataModel =>
      simp only [Fallible.map_eq_ok]
      constructor
      · rintro ⟨update, hupdate, rfl⟩
        exact ⟨rfl, rfl, hupdate⟩
      · rintro ⟨hkind, hname, hread⟩
        cases m <;> simp only [Message.kind, reduceCtorEq] at hkind
        obtain rfl := Option.some.inj hname
        exact ⟨_, hread, rfl⟩
    | deleteSurface =>
      constructor
      · intro h
        obtain rfl := Except.ok.inj h
        exact ⟨rfl, rfl, trivial⟩
      · rintro ⟨hkind, hname, -⟩
        cases m <;> simp only [Message.kind, reduceCtorEq] at hkind
        obtain rfl := Option.some.inj hname
        rfl

/-- An envelope is decoded exactly if it carries one kind, whose body is decoded. -/
theorem decodeMembers_eq_ok_iff {members : Record Json} {m : Message} :
    decodeMembers members = .ok m ↔
      MessageKind.carriedBy members = [m.kind] ∧
        ∃ body, Record.get? members m.kind.name = some (.obj body) ∧
          (Json.field body "surfaceId").name? = some m.surface ∧ m.ReadFrom body := by
  unfold decodeMembers
  split
  · rename_i h
    simp [h]
  · rename_i kind h
    rw [h]
    constructor
    · split
      · rename_i body hbody
        rw [decodeBody_eq_ok_iff]
        rintro ⟨rfl, hid, hread⟩
        exact ⟨rfl, body, (Json.field_eq_iff (by simp)).mp hbody, hid, hread⟩
      · simp
    · rintro ⟨hkind, body, hbody, hid, hread⟩
      obtain rfl : kind = m.kind := by simpa using hkind
      rw [(Json.field_eq_iff (by simp)).mpr hbody]
      exact decodeBody_eq_ok_iff.mpr ⟨rfl, hid, hread⟩
  · -- no kind or several: then no message has its kind as the only one
    rename_i kinds hnil hone
    constructor
    · simp
    · rintro ⟨h, -⟩
      exact absurd h (hone m.kind)

/-- Only objects decode to messages. -/
theorem decode_eq_ok_iff {v : Json} {m : Message} :
    decode v = .ok m ↔ ∃ members, v = .obj members ∧ decodeMembers members = .ok m := by
  cases v <;> simp [decode]

/-- A batch is decoded message by message, all or none. -/
theorem decodeAll_eq_ok_iff {vs : List Json} {ms : List Message} :
    decodeAll vs = .ok ms ↔ vs.map decode = ms.map .ok := by
  induction vs generalizing ms with
  | nil => cases ms <;> simp [decodeAll]
  | cons v vs ih =>
    cases hv : decode v with
    | error fault => cases ms <;> simp [decodeAll, hv]
    | ok m =>
      cases ms with
      | nil => simp [decodeAll, hv, Fallible.map_cons_ne_nil]
      | cons m' ms => simp [decodeAll, hv, Fallible.map_cons_eq_ok, ih]

/-- A batch is decoded exactly if each of its messages is. -/
theorem exists_decodeAll_iff {vs : List Json} :
    (∃ ms, decodeAll vs = .ok ms) ↔ ∀ v ∈ vs, ∃ m, decode v = .ok m := by
  simp only [decodeAll_eq_ok_iff, Fallible.exists_map_eq_map_ok_iff]

/-- The messages of a batch are those of its envelopes. -/
theorem mem_of_decodeAll {vs : List Json} {ms : List Message} (h : decodeAll vs = .ok ms)
    {m : Message} : m ∈ ms ↔ ∃ v ∈ vs, decode v = .ok m := by
  have hmem : Except.ok m ∈ ms.map (Except.ok : Message → Except Fault Message) ↔ m ∈ ms := by simp
  rw [← hmem, ← decodeAll_eq_ok_iff.mp h, List.mem_map]

/-- Each envelope gives one message. -/
theorem length_of_decodeAll {vs : List Json} {ms : List Message} (h : decodeAll vs = .ok ms) :
    ms.length = vs.length := by
  simpa using (congrArg List.length (decodeAll_eq_ok_iff.mp h)).symm

/-- What decodes is a batch of objects. -/
theorem exists_objects_of_decodeAll {vs : List Json} {ms : List Message} (h : decodeAll vs = .ok ms) :
    ∃ objects : List (Record Json), vs = objects.map .obj := by
  have hall := exists_decodeAll_iff.mp ⟨ms, h⟩
  clear h
  induction vs with
  | nil => exact ⟨[], rfl⟩
  | cons v vs ih =>
    obtain ⟨hv, hvs⟩ := List.forall_mem_cons.mp hall
    obtain ⟨m, hm⟩ := hv
    obtain ⟨members, rfl, -⟩ := decode_eq_ok_iff.mp hm
    obtain ⟨objects, rfl⟩ := ih hvs
    exact ⟨members :: objects, rfl⟩

end Message

end UiSurface
