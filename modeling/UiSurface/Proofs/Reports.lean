import UiSurface.Design.Preview
import UiSurface.Proofs.Codec
import UiSurface.Proofs.Export

/-!
# Three reports of what a surface lacks

What is missing in a surface is told in three places.  Validation reads the messages that a surface is
told by, as raw values; the store notes it after an update of components; a preview shows it.  All three
say the same: one entry for each place where a component lists a child that is not defined, in the order
of the table and of the lists, and one entry if there is no root.

`ComponentTable.gaps` lists these places once, and each report is an image of it.

Main lemmas: `ComponentTable.mem_gaps` and `ComponentTable.pairwise_gaps` (each place once, in order),
`ComponentTable.referencesAmong_values` (validation of a table), `Surface.problems_toMessages`
(validation of a surface), `Store.Shows.deliver` (what messages leave), `Store.three_reports_agree`.
-/

namespace UiSurface

/-! ## Gaps -/

/-- A place where a component lists a child that is not defined: the row of the component in its table,
its id, the position in its list, and the child. -/
structure Gap where
  row : Nat
  parent : String
  position : Nat
  child : String
deriving DecidableEq

namespace Gap

/-- The order of places: by row, and in a row by position. -/
def Before (g h : Gap) : Prop := g.row < h.row ∨ g.row = h.row ∧ g.position < h.position

def problem (place : String) (g : Gap) : Problem :=
  ⟨Validation.childPlace place g.row g.position, .danglingChild g.child⟩

def caution (g : Gap) : Caution := .danglingChild g.parent g.child

end Gap

namespace ComponentTable

/-- The gaps of a component in a row. -/
def gapsOf (table : ComponentTable) (row : Nat) (c : Component) : List Gap :=
  (c.childIds.zipIdx.filter fun e => !Record.has table e.1).map fun e => ⟨row, c.id, e.2, e.1⟩

/-- The gaps of a table, in order. -/
def gaps (table : ComponentTable) : List Gap :=
  (Record.values table).zipIdx.flatMap fun e => gapsOf table e.2 e.1

/-- The gaps of a component are its children that are not defined. -/
theorem mem_gapsOf {table : ComponentTable} {row : Nat} {c : Component} {g : Gap} :
    g ∈ gapsOf table row c ↔ g.row = row ∧ g.parent = c.id ∧
      c.childIds[g.position]? = some g.child ∧ Record.has table g.child = false := by
  simp only [gapsOf, List.mem_map, List.mem_filter, List.mem_zipIdx_iff_getElem?, Bool.not_eq_true']
  constructor
  · rintro ⟨e, ⟨he, hmissing⟩, rfl⟩
    exact ⟨rfl, rfl, he, hmissing⟩
  · obtain ⟨row', parent, position, child⟩ := g
    rintro ⟨rfl, rfl, hchild, hmissing⟩
    exact ⟨(child, position), ⟨hchild, hmissing⟩, rfl⟩

/-- The gaps are the places where a component lists a child that is not defined. -/
theorem mem_gaps {table : ComponentTable} {g : Gap} :
    g ∈ table.gaps ↔ ∃ c, (Record.values table)[g.row]? = some c ∧ g.parent = c.id ∧
      c.childIds[g.position]? = some g.child ∧ Record.has table g.child = false := by
  simp only [gaps, List.mem_flatMap, List.mem_zipIdx_iff_getElem?, mem_gapsOf]
  constructor
  · rintro ⟨e, he, hrow, hgap⟩
    exact ⟨e.1, hrow ▸ he, hgap⟩
  · rintro ⟨c, hc, hgap⟩
    exact ⟨(c, g.row), hc, rfl, hgap⟩

theorem pairwise_zipIdx {α : Type} (as : List α) : as.zipIdx.Pairwise fun e f => e.2 < f.2 := by
  rw [← List.pairwise_map (f := Prod.snd) (R := (· < ·)), List.zipIdx_map_snd]
  exact List.pairwise_lt_range'

/-- Each gap is listed once, and they are in order. -/
theorem pairwise_gaps (table : ComponentTable) : table.gaps.Pairwise Gap.Before := by
  unfold gaps
  rw [List.pairwise_flatMap]
  constructor
  · intro e _
    unfold gapsOf
    rw [List.pairwise_map]
    exact ((pairwise_zipIdx e.1.childIds).filter _).imp fun hpositions => Or.inr ⟨rfl, hpositions⟩
  · refine (pairwise_zipIdx (Record.values table)).imp ?_
    intro e f hrows g hg h hh
    left
    rw [(mem_gapsOf.mp hg).1, (mem_gapsOf.mp hh).1]
    exact hrows

/-- What a table reports of its dangling children are its gaps. -/
theorem dangling_eq_gaps (table : ComponentTable) :
    table.dangling = table.gaps.map fun g => (g.parent, g.child) := by
  -- row by row: the places of the missing children are forgotten
  have hrow : ∀ (row : Nat) (c : Component), (gapsOf table row c).map (fun g => (g.parent, g.child)) =
      (missingChildren table c).map fun id => (c.id, id) := by
    intro row c
    calc (gapsOf table row c).map (fun g => (g.parent, g.child))
        = ((c.childIds.zipIdx.filter fun e => !Record.has table e.1).map Prod.fst).map
            fun id => (c.id, id) := by
          simp only [gapsOf, List.map_map, Function.comp_def]
      _ = ((c.childIds.zipIdx.map Prod.fst).filter fun id => !Record.has table id).map
            fun id => (c.id, id) := by
          rw [List.filter_map]
          rfl
      _ = (missingChildren table c).map fun id => (c.id, id) := by
          rw [List.zipIdx_map_fst, missingChildren]
  calc table.dangling
      = ((Record.values table).zipIdx.map Prod.fst).flatMap
          fun c => (missingChildren table c).map fun id => (c.id, id) := by
        rw [List.zipIdx_map_fst, dangling]
    _ = (Record.values table).zipIdx.flatMap
          fun e => (gapsOf table e.2 e.1).map fun g => (g.parent, g.child) := by
        simp only [List.flatMap_map, hrow]
    _ = table.gaps.map fun g => (g.parent, g.child) := by
        rw [gaps, List.map_flatMap]

end ComponentTable

/-- What is to be noted of a surface: that it has no root, if it has none, and its gaps. -/
theorem Caution.ofSurface_eq (x : Surface) :
    ofSurface x = (if x.isRenderable then [] else [.missingRoot x.id x.rootId]) ++
      x.components.gaps.map Gap.caution := by
  rw [ofSurface, ComponentTable.dangling_eq_gaps, List.map_map]
  rfl

/-! ## Validation of a table -/

namespace Validation

/-- The problems of a list of conditions are those of the items that fail theirs. -/
theorem itemwise_require {α : Type} (ok : α → Bool) (place : Nat → String) (cause : α → ProblemCause)
    (items : List α) :
    itemwise (fun i v => require (ok v) (place i) (cause v)) items =
      (items.zipIdx.filter fun e => !ok e.1).map fun e => ⟨place e.2, cause e.1⟩ := by
  unfold itemwise
  induction items.zipIdx with
  | nil => rfl
  | cons e es ih =>
    rw [List.map_cons, List.flatten_cons, ih]
    cases hok : ok e.1 <;> simp [require, hok]

end Validation

theorem ComponentTable.keys_eq {table : ComponentTable} (hkeyed : ∀ e ∈ table, e.1 = e.2.id) :
    Record.keys table = (Record.values table).map Component.id := by
  rw [Record.keys, Record.values, List.map_map]
  exact List.map_congr_left hkeyed

/-- Of a root there is never more than one under names that differ. -/
theorem Validation.rootProblems_of_nodup (place : String) {ids : List String} (h : ids.Nodup) :
    rootProblems place ids = if Component.rootId ∈ ids then [] else [⟨place, .missingRoot⟩] := by
  unfold rootProblems
  rw [h.count]
  split <;> rfl

/-- Validation of the components of a table finds its gaps, and that there is no root if there is
none. -/
theorem ComponentTable.referencesAmong_values {table : ComponentTable}
    (hkeyed : ∀ e ∈ table, e.1 = e.2.id) (hnodup : (Record.keys table).Nodup) (place : String) :
    Validation.referencesAmong place (Record.values table) =
      table.gaps.map (Gap.problem place) ++
        if Record.has table Component.rootId then [] else [⟨place, .missingRoot⟩] := by
  have hids := keys_eq hkeyed
  -- a table is keyed by the ids of its components, so to be among the ids is to be in the table
  have hhas : ∀ id, ((Record.values table).map Component.id).contains id = Record.has table id := by
    intro id
    rw [← hids, Bool.eq_iff_iff, List.contains_iff_mem, Record.has_iff_mem_keys]
  have hroot : Validation.rootProblems place ((Record.values table).map Component.id) =
      if Record.has table Component.rootId then [] else [⟨place, .missingRoot⟩] := by
    rw [← hids, Validation.rootProblems_of_nodup place hnodup]
    simp only [Record.has_iff_mem_keys]
  have hrow : ∀ (row : Nat) (c : Component), Validation.itemwise (fun position child =>
        Validation.require (Record.has table child) (Validation.childPlace place row position)
          (.danglingChild child)) c.childIds =
      (gapsOf table row c).map (Gap.problem place) := by
    intro row c
    rw [Validation.itemwise_require, gapsOf, List.map_map]
    rfl
  have hgaps : Validation.itemwise (fun row c => (gapsOf table row c).map (Gap.problem place))
      (Record.values table) = table.gaps.map (Gap.problem place) := by
    rw [Validation.itemwise, gaps, List.map_flatMap, List.flatMap_def]
  simp only [Validation.referencesAmong, hhas, hrow, hgaps, hroot]

/-! ## Validation of a surface -/

namespace Surface

/-- The place of the components in the messages of a surface. -/
def componentsPlace : String :=
  Place.member (Place.member (Place.message 1) "updateComponents") "components"

/-- The messages of a sound surface have no problems but those of its references. -/
theorem problems_toMessages {x : Surface} (hx : x.Sound) :
    Validation.complete (.arr (x.toMessages.map Message.encode)) =
      Validation.referencesAmong componentsPlace (Record.values x.components) := by
  have hsound := sound_toMessages hx
  have hkinds : (x.toMessages.map Message.encode).filterMap MessageKind.ofEnvelope? =
      x.toMessages.map Message.kind :=
    Message.kinds_of_decodeAll (Message.decodeAll_encode hsound)
  have hcomplete : Validation.completeness (x.toMessages.map Message.kind) = [] := by
    simp [Validation.completeness, toMessages, Message.kind, Validation.require]
  have hmessages : Validation.itemwise (fun i v => Validation.message (Place.message i) v)
      (x.toMessages.map Message.encode) =
        Validation.itemwise (fun i m => m.problems (Place.message i)) x.toMessages := by
    rw [Validation.itemwise_map]
    exact Validation.itemwise_congr fun m hm i => Message.problems_encode (hsound m hm) _
  -- of the messages of an export, only the one with the components has references
  have htold : Validation.itemwise (fun i m => m.problems (Place.message i)) x.toMessages =
      Validation.referencesAmong componentsPlace (Record.values x.components) := by
    cases hempty : x.model.isEmpty <;>
      simp [Validation.itemwise, toMessages, hempty, Message.problems, componentsPlace,
        Validation.rootValue, Validation.require, Json.isObject, Json.members?]
  calc Validation.complete (.arr (x.toMessages.map Message.encode))
      = Validation.itemwise (fun i v => Validation.message (Place.message i) v)
            (x.toMessages.map Message.encode) ++
          Validation.completeness
            ((x.toMessages.map Message.encode).filterMap MessageKind.ofEnvelope?) := rfl
    _ = Validation.referencesAmong componentsPlace (Record.values x.components) := by
        rw [hmessages, htold, hkinds, hcomplete, List.append_nil]

end Surface

/-! ## Stores as messages leave them -/

/-- A message makes a surface under its id, shown from the usual root, and leaves both as they are. -/
theorem Message.id_onSurface {m : Message} {acceptsOverlay : Bool} {x : Option Surface}
    (hx : ∀ s, x = some s → s.id = m.surface ∧ s.rootId = Component.rootId) {t : Surface}
    (ht : m.onSurface acceptsOverlay x = some t) : t.id = m.surface ∧ t.rootId = Component.rootId := by
  -- a surface gets its name when it is created, and nothing renames it
  cases m with
  | createSurface id catalogId sendDataModel tokens =>
    obtain rfl := Option.some.inj ht
    exact ⟨rfl, rfl⟩
  | updateComponents id cs =>
    obtain ⟨s, hs, rfl⟩ := Option.map_eq_some_iff.mp ht
    exact hx s hs
  | updateDataModel id update =>
    obtain ⟨s, hs, rfl⟩ := Option.map_eq_some_iff.mp ht
    split
    · exact hx s hs
    · exact hx s hs
  | deleteSurface id => cases ht

namespace Store

/-- A message that comes decoded is one that an envelope can hold. -/
def Delivery.Sound : Delivery → Prop
  | .message m => m.Sound
  | .envelope _ => True

theorem Delivery.Sound.message {d : Delivery} (h : d.Sound) {m : Message} (hm : d.message? = some m) :
    m.Sound := by
  cases d with
  | message m' =>
    obtain rfl := Option.some.inj hm
    exact h
  | envelope members => exact Message.sound_of_decodeMembers (Fallible.toOption_eq_some_iff.mp hm)

/-- A store in use whose surfaces are sound, each under its own id and shown from the usual root. -/
structure Plain (s : Store) : Prop where
  inUse : s.disposed = false
  shown : ∀ id x, s.surface? id = some x → x.Sound ∧ x.id = id ∧ x.rootId = Component.rootId

theorem plain_empty (acceptsOverlay : Bool) : (empty acceptsOverlay).Plain := ⟨rfl, nofun⟩

/-- A message keeps a store plain. -/
theorem Plain.deliver {s : Store} (hs : s.Plain) {d : Delivery} (hd : d.Sound) :
    (s.deliver d).1.Plain := by
  cases hm : d.message? with
  | none =>
    obtain ⟨fault, hdeliver⟩ := exists_deliver_of_message?_eq_none hm
    rw [hdeliver]
    exact hs
  | some m =>
    rw [deliver_of_message? s hm]
    refine ⟨(s.sameSettings_apply m).2.trans hs.inUse, fun id x hx => ?_⟩
    -- only the surface that the message is for can change
    by_cases hid : m.surface = id
    · subst hid
      rw [surface?_apply_self hs.inUse] at hx
      have hsound := (hd.message hm).keeps (fun y hy => (hs.shown _ y hy).1) hx
      exact ⟨hsound, Message.id_onSurface (fun y hy => (hs.shown _ y hy).2) hx⟩
    · rw [s.surface?_apply_of_ne hid] at hx
      exact hs.shown id x hx

/-- So does a run. -/
theorem Plain.deliverAll {s : Store} (hs : s.Plain) {ds : List Delivery} (hds : ∀ d ∈ ds, d.Sound) :
    (s.deliverAll ds).1.Plain := by
  induction ds generalizing s with
  | nil => exact hs
  | cons d ds ih =>
    obtain ⟨hd, hrest⟩ := List.forall_mem_cons.mp hds
    exact ih (hs.deliver hd) hrest

/-! ## The reports -/

/-- The cautions of a preview are those of the surface. -/
theorem cautions_of_preview {x : Surface} {now : Stamp} {p : Preview}
    (h : Preview.ofSurface x now = .ok p) : p.cautions = Caution.ofSurface x := by
  obtain ⟨tree, -, hp⟩ := Fallible.bind_eq_ok.mp h
  cases hp
  rfl

/-- The three reports of a surface of a store are images of the gaps of its table, with one entry more if
there is no root. -/
structure ReportsAgree (s : Store) (x : Surface) : Prop where
  /-- the messages of the surface are right in form -/
  structural : hasStructural (Validation.complete (.arr (x.toMessages.map Message.encode))) = false
  validation : Validation.complete (.arr (x.toMessages.map Message.encode)) =
    x.components.gaps.map (Gap.problem Surface.componentsPlace) ++
      if Record.has x.components Component.rootId then []
      else [⟨Surface.componentsPlace, .missingRoot⟩]
  cautions : Caution.ofSurface x =
    (if Record.has x.components Component.rootId then [] else [.missingRoot x.id Component.rootId]) ++
      x.components.gaps.map Gap.caution
  /-- an update without components is accepted, with these cautions -/
  noted : ∀ d : Delivery, d.message? = some (.updateComponents x.id []) →
    (s.deliver d).2 = .accepted x.id (Caution.ofSurface x)
  /-- a preview shows them too -/
  previewed : ∀ now p, Preview.ofSurface x now = .ok p → p.cautions = Caution.ofSurface x
  /-- a gap is a place where a component lists a child that is not defined -/
  gap : ∀ g, g ∈ x.components.gaps ↔ ∃ c, (Record.values x.components)[g.row]? = some c ∧
    g.parent = c.id ∧ c.childIds[g.position]? = some g.child ∧ Record.has x.components g.child = false
  /-- each is listed once, in the order of the table and of the lists -/
  ordered : x.components.gaps.Pairwise Gap.Before

/-- Three reports of a surface agree.  Whatever messages have come to a new store, for every surface that
it shows: validation of the messages that tell the surface finds nothing wrong in form, and of references
what the store notes of an update without components, and what a preview shows. -/
theorem three_reports_agree (acceptsOverlay : Bool) {ds : List Delivery} (hds : ∀ d ∈ ds, d.Sound)
    {id : String} {x : Surface}
    (hx : ((empty acceptsOverlay).deliverAll ds).1.surface? id = some x) :
    x.id = id ∧ ((empty acceptsOverlay).deliverAll ds).1.ReportsAgree x := by
  have hplain := (plain_empty acceptsOverlay).deliverAll hds
  obtain ⟨hsound, rfl, hrootId⟩ := hplain.shown id x hx
  have hproblems := Surface.problems_toMessages hsound
  have hcautions := Caution.ofSurface_eq x
  rw [Surface.isRenderable, hrootId] at hcautions
  refine ⟨rfl, ?_, ?_, hcautions, ?_, fun now p hp => cautions_of_preview hp,
    fun g => ComponentTable.mem_gaps, ComponentTable.pairwise_gaps _⟩
  · rw [hproblems, hasStructural_eq_false_iff]
    exact fun p hp => Validation.isStructural_of_mem_referencesAmong hp
  · rw [hproblems]
    exact ComponentTable.referencesAmong_values hsound.keyed hsound.nodup _
  · intro d hd
    rw [deliver_of_message? _ hd, outcome_updateComponents hplain.inUse hx]
    rfl

/-- A surface without a root, of a component that lists a missing child twice and itself between, and of
one whose children are a template. -/
theorem three_reports_agree_without_root :
    let column : Json := .obj [("id", .str "column"), ("component", .str "Column"), ("children",
      .obj [("explicitList", .arr [.str "clock", .str "column", .str "clock"])])]
    let list : Json := .obj [("id", .str "list"), ("component", .str "List"), ("children",
      .obj [("template", .obj [("dataPath", .str "/rows"), ("componentId", .str "row")])])]
    let ds : List Delivery := [.message (.createSurface "tile" .null .null []),
      .envelope [("updateComponents", .obj [("surfaceId", .str "tile"),
        ("components", .arr [column, list])])],
      .message (.deleteSurface "other")]
    (∀ d ∈ ds, d.Sound) ∧ ∃ x, ((empty false).deliverAll ds).1.surface? "tile" = some x ∧
      Record.has x.components Component.rootId = false ∧
      x.components.gaps = [⟨0, "column", 0, "clock"⟩, ⟨0, "column", 2, "clock"⟩] ∧
      x.id = "tile" ∧ ((empty false).deliverAll ds).1.ReportsAgree x := by
  intro column list ds
  have hds : ∀ d ∈ ds, d.Sound := by
    simp only [ds, List.forall_mem_cons]
    exact ⟨⟨by decide, nofun⟩, trivial, ⟨by decide, nofun⟩, fun d hd => absurd hd List.not_mem_nil⟩
  obtain ⟨x, hx, hgaps⟩ : ∃ x, ((empty false).deliverAll ds).1.surface? "tile" = some x ∧
      Record.has x.components Component.rootId = false ∧
      x.components.gaps = [⟨0, "column", 0, "clock"⟩, ⟨0, "column", 2, "clock"⟩] :=
    ⟨_, rfl, by decide +kernel, by decide +kernel⟩
  exact ⟨hds, x, hx, hgaps.1, hgaps.2, three_reports_agree false hds hx⟩

end Store

end UiSurface
