import UiSurface.Proofs.Outlines
import UiSurface.Proofs.Reports
import UiSurface.Proofs.Retaining

/-!
# Extensions are neither lost nor altered

A component may have members that are no fields of their own.  They are set apart when it is decoded,
stand behind the fields when it is encoded, and are passed on as they are: by the table of the surface, by
the messages that tell the surface again, however often, and by the nodes of the tree.

Main lemmas: `Component.keepsExtensions_of_decode` (decoding and encoding), `Surface.told_components`
(the components that a surface tells), `Surface.retoldThrough_eq` (a surface that is told again and again),
`Surface.extensions_of_mem_visits` (the nodes of a tree), `Store.extensions_are_kept`.
-/

namespace UiSurface

/-! ## Decoding and encoding -/

namespace Component

/-- A component without its extensions. -/
def bare (c : Component) : Component := { c with extensions := [] }

/-- The members of a component are those of its fields, and behind them the extensions. -/
theorem encodeMembers_eq (c : Component) : c.encodeMembers = c.bare.encodeMembers ++ c.extensions := by
  simp [encodeMembers, bare]

theorem keys_member? (key : String) (v : Option Json) :
    (Record.keys (member? key v)).Sublist [key] := by
  cases v with
  | none => exact List.nil_sublist _
  | some v => exact List.Sublist.refl _

/-- The fields of an encoded component are in a fixed order, as far as they are there. -/
theorem keys_bare (c : Component) : (Record.keys c.bare.encodeMembers).Sublist
    ["id", "component", "children", "text", "label", "action", "style", "labelStyle"] := by
  have hfields := ((((((List.Sublist.refl ["id", "component"]).append
    (keys_member? "children" (c.children.map encodeChildren))).append
    (keys_member? "text" (c.text.map .str))).append
    (keys_member? "label" (c.label.map .str))).append
    (keys_member? "action" (c.action.map encodeAction))).append
    (keys_member? "style" (c.style.map .obj))).append
    (keys_member? "labelStyle" (c.labelStyle.map .obj))
  simpa [Record.keys, encodeMembers, bare] using hfields

/-- The fields are written under known names only. -/
theorem mem_knownKeys_of_bare {c : Component} {key : String}
    (h : key ∈ Record.keys c.bare.encodeMembers) : key ∈ knownKeys := by
  have hfields : ["id", "component", "children", "text", "label", "action", "style",
      "labelStyle"] ⊆ knownKeys := by decide
  exact hfields (c.keys_bare.mem h)

/-- A component keeps the extensions of the members that it was decoded from: encoded, it has its fields
and behind them these members, in order and with their values.  None has the name of a field, so that
each field reads as if there were none.  No name is there twice if none was, and what is encoded is
decoded again. -/
structure KeepsExtensions (raw : Record Json) (c : Component) : Prop where
  encoded : c.encodeMembers = c.bare.encodeMembers ++ extensionsOf raw
  extensions : extensionsOf c.encodeMembers = extensionsOf raw
  unknown : ∀ e ∈ extensionsOf raw, e.1 ∉ knownKeys
  known : ∀ e ∈ c.bare.encodeMembers, e.1 ∈ knownKeys
  field : ∀ key ∈ knownKeys, Record.get? c.encodeMembers key = Record.get? c.bare.encodeMembers key
  other : ∀ key, key ∉ knownKeys → Record.get? c.encodeMembers key = Record.get? raw key
  nodup : (Record.keys raw).Nodup → (Record.keys c.encodeMembers).Nodup
  decoded : decode c.encode = .ok c

/-- Under a name that is not that of a field, members have what their extensions have. -/
theorem get?_extensionsOf {members : Record Json} {key : String} (h : key ∉ knownKeys) :
    Record.get? (extensionsOf members) key = Record.get? members key := by
  induction members with
  | nil => rfl
  | cons e members ih =>
    obtain ⟨name, v⟩ := e
    -- the first member decides if it has the name; otherwise it is known or not
    by_cases hname : name = key
    · subst hname
      simp [extensionsOf, h, Record.get?]
    · by_cases hknown : name ∈ knownKeys
      · have hskip : extensionsOf ((name, v) :: members) = extensionsOf members := by
          simp [extensionsOf, hknown]
        rw [hskip, ih, Record.get?, if_neg hname]
      · have hkeep : extensionsOf ((name, v) :: members) = (name, v) :: extensionsOf members := by
          simp [extensionsOf, hknown]
        rw [hkeep, Record.get?, Record.get?, if_neg hname, if_neg hname, ih]

/-- A component that was decoded keeps what no field of it took. -/
theorem keepsExtensions_of_decode {raw : Record Json} {c : Component}
    (h : decode (.obj raw) = .ok c) : c.KeepsExtensions raw := by
  have hsound := sound_of_decode h
  have hextensions : extensionsOf raw = c.extensions := by
    obtain ⟨-, -, -, -, -, -, -, -, hextensions⟩ := decodeMembers_eq_ok_iff.mp h
    exact hextensions
  refine ⟨?_, ?_, ?_, ?_, ?_, ?_, ?_, decode_encode hsound⟩
  · rw [hextensions, encodeMembers_eq]
  · rw [hextensions, extensionsOf_encodeMembers hsound]
  · rw [hextensions]
    exact hsound.extension
  · exact fun e he => mem_knownKeys_of_bare (List.mem_map_of_mem he)
  · intro key hkey
    rw [encodeMembers_eq, Record.get?_append, get?_extensions hsound hkey, Option.or_none]
  · intro key hkey
    rw [← get?_extensionsOf hkey, extensionsOf_encodeMembers hsound, ← hextensions,
      get?_extensionsOf hkey]
  · -- the fields have known names and the extensions others, so no name comes twice
    intro hraw
    rw [encodeMembers_eq, Record.keys, List.map_append, List.nodup_append]
    refine ⟨c.keys_bare.nodup (by decide), ?_, ?_⟩
    · rw [← hextensions]
      exact hraw.sublist (List.filter_sublist.map Prod.fst)
    · rintro key hknown other hother rfl
      obtain ⟨e, he, rfl⟩ := List.mem_map.mp hother
      exact hsound.extension e he (mem_knownKeys_of_bare hknown)

end Component

/-! ## Envelopes -/

/-- The components that an envelope lists, as raw values; none where it lists none. -/
def Envelope.listed : Json → List Json
  | .obj members => match Json.field members "updateComponents" with
    | .obj body => match Json.field body "components" with
      | .arr items => items
      | _ => []
    | _ => []
  | _ => []

/-- An envelope that lists components, and is decoded, is an update that has them. -/
theorem Message.exists_of_listed {members : Record Json} {m : Message}
    (h : decodeMembers members = .ok m) (hlisted : Envelope.listed (.obj members) ≠ []) :
    ∃ id cs, m = .updateComponents id cs ∧
      (Envelope.listed (.obj members)).map Component.decode = cs.map .ok := by
  obtain ⟨hcarried, body, hbody, -, hread⟩ := decodeMembers_eq_ok_iff.mp h
  -- an envelope that lists components has a member for them, so that is its kind
  have hkind : m.kind = .updateComponents := by
    have hmember : Record.has members "updateComponents" = true := by
      cases hget : Record.get? members "updateComponents" with
      | none => simp [Envelope.listed, Json.field, hget] at hlisted
      | some v => simp [Record.has, hget]
    have hmem : MessageKind.updateComponents ∈ MessageKind.carriedBy members := by
      simp [MessageKind.carriedBy, MessageKind.all, MessageKind.name, hmember]
    rw [hcarried, List.mem_singleton] at hmem
    exact hmem.symm
  cases m with
  | updateComponents id cs =>
    obtain ⟨items, hitems, hcs⟩ := hread
    have hfield : Json.field members "updateComponents" = .obj body :=
      (Json.field_eq_iff (by simp)).mpr hbody
    refine ⟨id, cs, rfl, ?_⟩
    simp only [Envelope.listed, hfield, hitems]
    exact decodeComponents_eq_ok_iff.mp hcs
  | createSurface | updateDataModel | deleteSurface => cases hkind

/-- The components that a decoded message lists in its envelope. -/
theorem Message.listed_encode (m : Message) : Envelope.listed m.encode =
    match m with
    | .updateComponents _ cs => cs.map Component.encode
    | .createSurface .. | .updateDataModel .. | .deleteSurface _ => [] := by
  cases m <;> rfl

/-- The id that is written is the id of the component. -/
theorem Component.idOf?_encode {c : Component} (h : c.Sound) :
    Validation.idOf? c.encode = some c.id :=
  Json.name?_eq_some_iff.mpr ⟨rfl, h.id_ne⟩

/-- The last listed component of an id is the one that is found. -/
theorem ComponentTable.get?_upsertAll_of_listed (table : ComponentTable) {cs : List Component} {c : Component}
    {before after : List Json} {v : Json} (hc : Component.decode v = .ok c)
    (hcs : (before ++ v :: after).map Component.decode = cs.map .ok)
    (hlast : ∀ w ∈ after, Validation.idOf? w ≠ some c.id) :
    Record.get? (table.upsertAll cs) c.id = some c := by
  rw [List.map_append, List.map_cons, hc] at hcs
  obtain ⟨first, rest, rfl, -, hrest⟩ := List.map_eq_append_iff.mp hcs.symm
  obtain ⟨d, last, rfl, hd, hafter⟩ := List.map_eq_cons_iff.mp hrest
  obtain rfl := Except.ok.inj hd
  refine get?_upsertAll_append_cons _ _ _ fun e he heq => ?_
  have hmem : (Except.ok e : Except Component.Fault Component) ∈ after.map Component.decode :=
    hafter ▸ List.mem_map_of_mem he
  obtain ⟨w, hw, hdecode⟩ := List.mem_map.mp hmem
  exact hlast w hw (by rw [Component.idOf?_of_decode hdecode, heq])

/-! ## Surfaces told again -/

/-- Where no name is there twice, an entry is the only one of its name. -/
theorem Record.filter_key_eq {α : Type} {r : Record α} (h : (keys r).Nodup) {key : String} {value : α}
    (hget : get? r key = some value) : (r.filter fun e => decide (e.1 = key)) = [(key, value)] := by
  induction r with
  | nil => cases hget
  | cons e r ih =>
    obtain ⟨name, v⟩ := e
    obtain ⟨hname, hr⟩ := List.nodup_cons.mp h
    by_cases hkey : name = key
    · subst hkey
      obtain rfl : v = value := by simpa [get?] using hget
      -- no name comes twice, so nothing behind the entry has its name
      have hrest : (r.filter fun e => decide (e.1 = name)) = [] := by
        rw [List.filter_eq_nil_iff]
        intro e he heq
        have hmem := mem_keys_of_mem he
        rw [of_decide_eq_true heq] at hmem
        exact hname hmem
      simp [hrest]
    · rw [get?, if_neg hkey] at hget
      rw [List.filter_cons_of_neg (by simpa using hkey)]
      exact ih hr hget

namespace Surface

/-- The components that a surface tells, in its envelopes, are those of its table. -/
theorem told_components (x : Surface) : (x.toMessages.map Message.encode).flatMap Envelope.listed =
    (Record.values x.components).map Component.encode := by
  cases hempty : x.model.isEmpty <;> simp [toMessages, hempty, Message.listed_encode]

/-- Under its id a component is told once. -/
theorem told_component {x : Surface} (hx : x.Sound) {c : Component}
    (hc : Record.get? x.components c.id = some c) :
    (((x.toMessages.map Message.encode).flatMap Envelope.listed).filter fun v =>
      decide (Validation.idOf? v = some c.id)) = [c.encode] := by
  have hentry : ∀ e ∈ x.components,
      decide (Validation.idOf? e.2.encode = some c.id) = decide (e.1 = c.id) := by
    intro e he
    simp only [Component.idOf?_encode (hx.component e he), hx.keyed e he, Option.some_inj]
  calc (((x.toMessages.map Message.encode).flatMap Envelope.listed).filter fun v =>
        decide (Validation.idOf? v = some c.id))
      = (x.components.filter fun e => decide (Validation.idOf? e.2.encode = some c.id)).map
          fun e => e.2.encode := by
        rw [told_components, Record.values, List.map_map, List.filter_map]
        rfl
    _ = (x.components.filter fun e => decide (e.1 = c.id)).map fun e => e.2.encode := by
        rw [List.filter_congr hentry]
    _ = [c.encode] := by rw [Record.filter_key_eq hx.nodup hc]; rfl

/-- The surface that is there when the messages of a surface are imported into a store. -/
def retoldIn (x : Surface) (t : Store) : Option Surface :=
  match t.importBatch (.arr (x.toMessages.map Message.encode)) with
  | (told, .ok _) => told.surface? x.id
  | (_, .error _) => none

/-- The surface that is there when a surface is told from one store to the next. -/
def retoldThrough (x : Surface) : List Store → Option Surface
  | [] => some x
  | t :: ts => (x.retoldIn t).bind fun y => y.retoldThrough ts

/-- Any store that is in use takes a surface, and has it as it was, but for the root. -/
theorem retoldIn_eq {x : Surface} (hx : x.Sound) {t : Store} (ht : t.disposed = false) :
    x.retoldIn t = some { x with rootId := Component.rootId } := by
  have hproblems : hasStructural
      (Validation.complete (.arr (x.toMessages.map Message.encode))) = false := by
    rw [problems_toMessages hx, hasStructural_eq_false_iff]
    exact fun p hp => Validation.isStructural_of_mem_referencesAmong hp
  obtain ⟨envelopes, ms, hbatch, hms, himport⟩ := t.importBatch_eq_of_sound hproblems
  obtain rfl := Json.arr.inj hbatch
  obtain rfl := Except.ok.inj (hms.symm.trans (Message.decodeAll_encode (sound_toMessages hx)))
  obtain ⟨outcomes, happly, -⟩ := Store.applyAll_toMessages t.acceptsOverlay hx
  have hcreated : ∃ m ∈ x.toMessages, m.kind = .createSurface ∧ m.surface = x.id :=
    ⟨_, List.mem_append_left _ List.mem_cons_self, rfl, rfl⟩
  -- what the store held before plays no part, so it may as well be new
  have hsame := Store.surface?_applyAll_of_create (s := Store.empty t.acceptsOverlay) rfl ht rfl hcreated
  simp only [retoldIn, himport]
  rw [hsame, happly]
  exact Store.surface?_holding _ _

theorem sound_of_root {x : Surface} (hx : x.Sound) (root : String) :
    ({ x with rootId := root } : Surface).Sound :=
  ⟨hx.id_ne, hx.keyed, hx.nodup, hx.component⟩

/-- A surface that is told from store to store stays as it is, but for the root. -/
theorem retoldThrough_eq {x : Surface} (hx : x.Sound) {ts : List Store}
    (hts : ∀ t ∈ ts, t.disposed = false) :
    ∃ root, x.retoldThrough ts = some { x with rootId := root } := by
  induction ts generalizing x with
  | nil => exact ⟨x.rootId, rfl⟩
  | cons t ts ih =>
    obtain ⟨ht, hrest⟩ := List.forall_mem_cons.mp hts
    obtain ⟨root, hretold⟩ := ih (sound_of_root hx Component.rootId) hrest
    exact ⟨root, by rw [retoldThrough, retoldIn_eq hx ht, Option.bind_some, hretold]⟩

end Surface

/-! ## The tree -/

namespace Node

/-- The extensions of the component that a node shows. -/
def extensions : Node → Record Json
  | mk _ _ _ _ _ _ _ extensions _ => extensions

/-- A node as JSON has its extensions under a name of their own. -/
theorem exists_encode_eq (n : Node) : ∃ members, n.encode = .obj members ∧
    Record.get? members "extensions" = some (.obj n.extensions) := by
  obtain ⟨id, type, text, label, style, labelStyle, action, extensions, children⟩ := n
  refine ⟨_, by rw [encode], ?_⟩
  simp [Record.get?, Record.get?_append, Component.get?_member?, Node.extensions]

end Node

namespace Surface

/-- Each node of a tree has the id and the extensions of a component of the table. -/
theorem extensions_of_mem_visits {x : Surface} {resolve : String → Except TooManyDigits String}
    {fuel : Nat} {branch : List String} {c : Component} {tree : Node}
    (hfuel : x.components.room branch < fuel) (hc : c ∈ Record.values x.components)
    (h : x.nodeFromWith resolve fuel branch c = .ok tree) (depth : Nat) :
    ∀ v ∈ tree.visits depth, ∃ d ∈ Record.values x.components,
      v.1.id = d.id ∧ v.1.extensions = d.extensions := by
  -- by the fuel; there is less room below a child, so the fuel lasts
  induction fuel generalizing branch c tree depth with
  | zero => cases hfuel
  | succ fuel ih =>
    simp only [nodeFromWith, Fallible.bind_eq_ok] at h
    obtain ⟨text, -, label, -, style, -, labelStyle, -, children, hchildren, htree⟩ := h
    obtain rfl := Except.ok.inj htree
    intro v hv
    rw [Node.visits, Node.visitsAll_eq] at hv
    -- the node itself, or one in the tree of a child
    rcases List.mem_cons.mp hv with rfl | hv
    · exact ⟨c, hc, rfl, rfl⟩
    · obtain ⟨node, hnode, hv⟩ := List.mem_flatMap.mp hv
      obtain ⟨child, -, hbelow, hmade⟩ :=
        ComponentTable.exists_partner (Fallible.forall₂_of_mapM hchildren) node hnode
      obtain ⟨hchild, hbranch⟩ := List.mem_filter.mp hbelow
      have hbranch : child.id ∉ branch := by simpa using hbranch
      have hvalue := ComponentTable.mem_values_of_mem_children hchild
      have hroom := ComponentTable.room_lt hvalue hbranch
      exact ih (by omega) hvalue hmade (depth + 1) v hv

/-- A surface passes a component on as it is: in the messages that tell the surface, it is listed once
under its id, with the extensions of the members that it was decoded from, and wherever the tree shows it,
the node has these as its extensions.  The tree shows it at every visit of the walk from the root. -/
structure Carries (x : Surface) (raw : Record Json) (c : Component) : Prop where
  found : Record.get? x.components c.id = some c
  told : (((x.toMessages.map Message.encode).flatMap Envelope.listed).filter fun v =>
    decide (Validation.idOf? v = some c.id)) = [c.encode]
  shown : ∀ now tree, (x.renderTree now = .ok (some tree) ∨ x.renderTreeCounted now = .ok (some tree)) →
    (∀ v ∈ tree.visits 0, v.1.id = c.id → ∃ members, v.1.encode = .obj members ∧
      Record.get? members "extensions" = some (.obj (Component.extensionsOf raw))) ∧
    ∀ depth, (c, depth) ∈ x.components.walk x.rootId → ∃ v ∈ tree.visits 0, v.1.id = c.id ∧ v.2 = depth

/-- A tree is made from the root, whether or not digits are counted. -/
theorem exists_nodeFromWith {x : Surface} {now : Stamp} {tree : Node}
    (h : x.renderTree now = .ok (some tree) ∨ x.renderTreeCounted now = .ok (some tree)) :
    ∃ resolve root, x.root? = some root ∧
      x.nodeFromWith resolve x.components.length [root.id] root = .ok tree := by
  unfold renderTree renderTreeCounted at h
  cases hroot : x.root? with
  | none => simp [hroot] at h
  | some root =>
    simp only [hroot, nodeFrom_eq_with, nodeFromCounted_eq_with, Fallible.map_eq_ok,
      Option.some.injEq] at h
    rcases h with ⟨_, hmade, rfl⟩ | ⟨_, hmade, rfl⟩
    · exact ⟨_, root, rfl, hmade⟩
    · exact ⟨_, root, rfl, hmade⟩

/-- Under its id a sound surface has one component. -/
theorem eq_of_mem_values {x : Surface} (hx : x.Sound) {c d : Component}
    (hc : Record.get? x.components c.id = some c) (hd : d ∈ Record.values x.components)
    (hid : d.id = c.id) : d = c := by
  obtain ⟨e, he, rfl⟩ := List.mem_map.mp hd
  have hget : Record.get? x.components e.1 = some e.2 := Record.get?_of_mem hx.nodup he
  rw [hx.keyed e he, hid, hc] at hget
  exact (Option.some.inj hget).symm

/-- A component of a sound surface is told with its extensions. -/
theorem carries_of_sound {x : Surface} (hx : x.Sound) {raw : Record Json} {c : Component}
    (hc : Record.get? x.components c.id = some c) (hraw : Component.extensionsOf raw = c.extensions) :
    x.Carries raw c := by
  refine ⟨hc, told_component hx hc, fun now tree htree => ?_⟩
  obtain ⟨resolve, root, hroot, hmade⟩ := exists_nodeFromWith htree
  have hvalue := ComponentTable.mem_values_of_get? hroot
  refine ⟨fun v hv hid => ?_, fun depth hvisit => ?_⟩
  · obtain ⟨d, hd, hdid, hextensions⟩ := extensions_of_mem_visits
      (ComponentTable.room_singleton_lt hvalue) hvalue hmade 0 v hv
    obtain rfl := eq_of_mem_values hx hc hd (hdid.symm.trans hid)
    obtain ⟨members, hencode, hmember⟩ := v.1.exists_encode_eq
    exact ⟨members, hencode, by rw [hmember, hextensions, hraw]⟩
  · -- where the walk visits the component, the tree has a node for it
    have hmem : (c.id, depth) ∈ tree.preorder 0 := by
      rw [preorder_eq_walk (shows_walk_of_root hroot hmade)]
      exact List.mem_map.mpr ⟨(c, depth), hvisit, rfl⟩
    rw [Node.preorder_eq_visits] at hmem
    obtain ⟨v, hv, heq⟩ := List.mem_map.mp hmem
    exact ⟨v, hv, (Prod.mk.inj heq).1, (Prod.mk.inj heq).2⟩

end Surface

namespace Store

/-! ## Updates -/

/-- An update that is accepted leaves the components that it lists on the surface that it names. -/
theorem components_of_accepted {s : Store} {members : Record Json} {id : String}
    {cautions : List Caution} (haccepted : (s.applyMembers members).2 = .accepted id cautions)
    (hlisted : Envelope.listed (.obj members) ≠ []) :
    ∃ (x : Surface) (cs : List Component),
      (Envelope.listed (.obj members)).map Component.decode = cs.map .ok ∧
      (s.applyMembers members).1.surface? id = some { x with components := x.components.upsertAll cs } := by
  cases hdecode : Message.decodeMembers members with
  | error fault =>
    unfold applyMembers at haccepted
    rw [hdecode] at haccepted
    split at haccepted <;> cases haccepted
  | ok m =>
    rw [applyMembers_of_decode s hdecode] at haccepted ⊢
    obtain ⟨other, cs, rfl, hcs⟩ := Message.exists_of_listed hdecode hlisted
    -- what was accepted was not refused
    rcases s.apply_cases (.updateComponents other cs) with
      ⟨about, reason, hrefused⟩ | ⟨t, noted, hinUse, heffect, happly⟩
    · rw [hrefused] at haccepted
      cases haccepted
    · rw [happly] at haccepted
      obtain ⟨rfl, -⟩ := Outcome.accepted.inj haccepted
      simp only [effect] at heffect
      split at heffect
      · cases heffect
      · rename_i x hx
        refine ⟨x, cs, hcs, ?_⟩
        rw [surface?_apply hinUse, if_pos rfl]
        show (s.surface? other).map _ = _
        rw [hx]
        rfl

/-- Extensions are kept.  A component is listed in an update that a store accepts, and is the last of its
id there; afterwards, anything may be done to the store but to replace it.  Then the component as it is
encoded keeps the extensions of the members that it was listed with.  The surface has it, under the same
handle, stale or live, and passes it on as it is; so does every surface that comes of telling this one to
other stores, one after the other.  While nothing that may be its end is done, the surface is live. -/
theorem extensions_are_kept {s : Store} (hs : s.Reachable) {members : Record Json} {id : String}
    {cautions : List Caution} (haccepted : (s.applyMembers members).2 = .accepted id cautions)
    {before after : List Json} {raw : Record Json}
    (hlisted : Envelope.listed (.obj members) = before ++ .obj raw :: after)
    {c : Component} (hc : Component.decode (.obj raw) = .ok c)
    (hlast : ∀ v ∈ after, Validation.idOf? v ≠ some c.id) :
    c.KeepsExtensions raw ∧
    ∃ h, Record.get? (s.perform (.envelope members)).live id = some h ∧
      ∀ ops, (∀ op ∈ ops, Operation.replaces id c.id op = false) →
        let t := (s.perform (.envelope members)).performAll ops
        ∃ h', t.handle? h.number = some h' ∧ h'.surface.id = id ∧
          h'.surface.Carries raw c ∧
          (∀ ts, (∀ u ∈ ts, u.disposed = false) →
            ∃ y, h'.surface.retoldThrough ts = some y ∧ y.Carries raw c) ∧
          (h'.stale = false → t.surface? id = some h'.surface) ∧
          ((∀ op ∈ ops, Operation.ends id op = false) → h'.stale = false) := by
  have hkeeps := Component.keepsExtensions_of_decode hc
  have hraw : Component.extensionsOf raw = c.extensions := by
    rw [← hkeeps.extensions, Component.extensionsOf_encodeMembers (Component.sound_of_decode hc)]
  obtain ⟨x, cs, hcs, hsurface⟩ := components_of_accepted haccepted (by rw [hlisted]; simp)
  rw [hlisted] at hcs
  have hreachable : (s.perform (.envelope members)).Reachable := hs.perform _
  obtain ⟨h, hlive, hx⟩ := Option.map_eq_some_iff.mp hsurface
  have hmem : h ∈ (s.perform (.envelope members)).handles :=
    mem_handles_of_mem_live (Record.mem_of_get?_eq_some hlive)
  have hid : h.surface.id = id := hreachable.tidy.keyed _ (Record.mem_of_get?_eq_some hlive)
  have hfound : Record.get? h.surface.components c.id = some c := by
    rw [hx]
    exact x.components.get?_upsertAll_of_listed hc hcs hlast
  refine ⟨hkeeps, h, hlive, fun ops hops => ?_⟩
  -- over the operations the handle keeps the component, since none replaces it
  obtain ⟨h', hh', hnumber, hid', hfound', hstays⟩ :=
    exists_retained_performAll hreachable.tidy hmem hfound (by rw [hid]; exact hops)
  have hlater := hreachable.performAll ops
  have hsound := hlater.sound h'.surface (List.mem_map_of_mem hh')
  rw [hid] at hid' hstays
  refine ⟨h', hlater.tidy.handle?_eq_some_iff.mpr ⟨hh', hnumber⟩, hid',
    Surface.carries_of_sound hsound hfound' hraw, fun ts hts => ?_, fun hfresh => ?_, fun hends => ?_⟩
  · obtain ⟨root, hretold⟩ := Surface.retoldThrough_eq hsound hts
    exact ⟨_, hretold, Surface.carries_of_sound (Surface.sound_of_root hsound root) hfound' hraw⟩
  · have hget := (hlater.tidy.stale_eq_false_iff hh').mp hfresh
    rw [hid'] at hget
    rw [surface?, hget]
    rfl
  · rw [hstays hends]
    exact hreachable.tidy.fresh _ (Record.mem_of_get?_eq_some hlive)

/-- A text that has an icon, a member whose name is that of a field but for one letter, and one called as
extensions are in a tree.  It is listed after a box of its id.  Afterwards its surface is shown from
another root, has other components and data, is told to two stores, and is deleted. -/
theorem icon_is_kept :
    let raw : Record Json := [("icon", .null), ("id", .str "root"), ("componentType", .str "Text"),
      ("Text", .arr [.str "a"]), ("text", .str "Hi"), ("extensions", .obj [("id", .str "x")])]
    let unknown : Record Json :=
      [("icon", .null), ("Text", .arr [.str "a"]), ("extensions", .obj [("id", .str "x")])]
    let text : Component := ⟨"root", "Text", none, some "Hi", none, none, none, none, unknown⟩
    let box : Json := .obj [("id", .str "root"), ("component", .str "Box")]
    let clock : Json := .obj [("id", .str "clock"), ("component", .str "Clock")]
    let update (components : List Json) : Record Json :=
      [("updateComponents", .obj [("surfaceId", .str "tile"), ("components", .arr components)])]
    let s := (empty false).perform (.envelope [("createSurface", .obj [("surfaceId", .str "tile")])])
    let ops : List Operation := [.setRoot 0 "clock", .envelope (update [clock]),
      .envelope [("updateDataModel", .obj [("surfaceId", .str "tile"), ("path", .str "/n"),
        ("value", .ofInt 7)])]]
    let t := (s.perform (.envelope (update [box, .obj raw, clock]))).performAll ops
    let u := t.perform (.envelope [("deleteSurface", .obj [("surfaceId", .str "tile")])])
    Component.extensionsOf text.encodeMembers = unknown ∧
      (∃ x, t.surface? "tile" = some x ∧ x.Carries raw text ∧
        ∃ y, x.retoldThrough [empty true, empty false] = some y ∧ y.Carries raw text) ∧
      u.surface? "tile" = none ∧
      ∃ h, u.handle? 0 = some h ∧ h.surface.Carries raw text := by
  intro raw unknown text box clock update s ops t u
  have hs : s.Reachable := (Reachable.empty false).perform _
  have haccepted : (s.applyMembers (update [box, .obj raw, clock])).2 = .accepted "tile" [] := by
    decide +kernel
  have hlast : ∀ v ∈ [clock], Validation.idOf? v ≠ some text.id := by decide +kernel
  have hlisted : Envelope.listed (.obj (update [box, .obj raw, clock])) =
      [box] ++ .obj raw :: [clock] := rfl
  have hdecode : Component.decode (.obj raw) = .ok text := by decide +kernel
  obtain ⟨hkeeps, h, hlive, hkept⟩ := extensions_are_kept hs haccepted hlisted hdecode hlast
  have hnumber : h.number = 0 := by
    have hlookup : (Record.get? (s.perform (.envelope (update [box, .obj raw, clock]))).live
        "tile").map Handle.number = some 0 := by decide +kernel
    rw [hlive] at hlookup
    exact Option.some.inj hlookup
  have hinUse : ∀ v ∈ [empty true, empty false], v.disposed = false := by decide
  refine ⟨hkeeps.extensions, ?_, by decide +kernel, ?_⟩
  · obtain ⟨h', -, -, hcarries, hretold, hfound, hstays⟩ := hkept ops (by decide +kernel)
    exact ⟨h'.surface, hfound (hstays (by decide +kernel)), hcarries, hretold _ hinUse⟩
  · obtain ⟨h', hfound, -, hcarries, -, -, -⟩ := hkept
      (ops ++ [.envelope [("deleteSurface", .obj [("surfaceId", .str "tile")])]]) (by decide +kernel)
    rw [hnumber] at hfound
    exact ⟨h', hfound, hcarries⟩

end Store

end UiSurface
