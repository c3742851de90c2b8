import UiSurface.Proofs.MemberOrder
import UiSurface.Proofs.Steps

/-!
# Grafts

A tree with branches grafted on a base holds each of some values at the end of its keys, and beside them
what the base holds.  This says what is found along every path, so it makes out a tree up to the order of
members, however the branches came to it.  Two ways lead there: to write them one by one, and to lay a
tree over the base that has them and nothing else.

Main lemmas: `Grafted.sameUpToOrder` (the branches make out the tree), `Grafted.set` and `Grafted.merge`
(one write, one overlay), `Grafted.foldl` (a run of changes), `grafted_expandFlat` (a flat overlay),
`flat_overlay_is_its_writes`.
-/

namespace UiSurface

/-! ## Paths that part -/

/-- Two lists of keys that part: neither goes on from the other. -/
def Path.Apart (p q : List String) : Prop := ¬ p <+: q ∧ ¬ q <+: p

theorem Path.Apart.symm {p q : List String} (h : Apart p q) : Apart q p := ⟨h.2, h.1⟩

/-- A name that can stand in a path as it is. -/
def Path.IsKey (name : String) : Prop := name ≠ "" ∧ '/' ∉ name.toList

instance (name : String) : Decidable (Path.IsKey name) :=
  inferInstanceAs (Decidable (name ≠ "" ∧ '/' ∉ name.toList))

/-- Such a name is a path of one key. -/
theorem Path.segments_of_isKey {name : String} (h : IsKey name) : segments name = [name] := by
  have hnonempty : name.toList ≠ [] := by simpa using h.1
  simp [segments, Text.splitAt_of_not_mem h.2, hnonempty]

namespace DataModel

open Json (SameUpToOrder wellFormed_obj_iff wellFormed_empty)
open UiSurface.Path (Apart)

/-- A value at the end of a list of keys. -/
abbrev Branch := List String × Json

/-- How a path stands to some branches: it parts from all, it goes on from the end of one, or it ends on the
way to one. -/
theorem apart_or_prefix (branches : List Branch) (keys : List String) :
    (∀ b ∈ branches, Apart b.1 keys) ∨ (∃ b ∈ branches, ∃ rest, keys = b.1 ++ rest) ∨
      ∃ b ∈ branches, ∃ key behind, b.1 = keys ++ key :: behind := by
  by_cases hbelow : ∃ b ∈ branches, b.1 <+: keys
  · obtain ⟨b, hb, rest, hrest⟩ := hbelow
    exact Or.inr (Or.inl ⟨b, hb, rest, hrest.symm⟩)
  · by_cases habove : ∃ b ∈ branches, keys <+: b.1
    · obtain ⟨b, hb, behind, hbehind⟩ := habove
      cases behind with
      | nil =>
        rw [List.append_nil] at hbehind
        exact absurd ⟨b, hb, hbehind ▸ List.prefix_refl keys⟩ hbelow
      | cons key behind => exact Or.inr (Or.inr ⟨b, hb, key, behind, hbehind.symm⟩)
    · exact Or.inl fun b hb => ⟨fun h => hbelow ⟨b, hb, h⟩, fun h => habove ⟨b, hb, h⟩⟩

/-! ## Grafted trees -/

/-- A tree with branches grafted on a base: the value of each branch is found at the end of its keys, and
along a path that parts from all of them what is found in the base. -/
structure Grafted (base : DataModel) (branches : List Branch) (tree : DataModel) : Prop where
  ne_nil : ∀ b ∈ branches, b.1 ≠ []
  found : ∀ b ∈ branches, get? tree b.1 = some b.2
  beside : ∀ keys, keys ≠ [] → (∀ b ∈ branches, Apart b.1 keys) → get? tree keys = get? base keys

namespace Grafted

variable {base tree : DataModel} {branches : List Branch}

theorem nil (base : DataModel) : Grafted base [] base := ⟨nofun, nofun, fun _ _ _ => rfl⟩

/-- The order of the branches does not matter. -/
theorem perm (h : Grafted base branches tree) {others : List Branch} (hperm : others.Perm branches) :
    Grafted base others tree where
  ne_nil b hb := h.ne_nil b (hperm.mem_iff.mp hb)
  found b hb := h.found b (hperm.mem_iff.mp hb)
  beside keys hkeys hapart := h.beside keys hkeys fun b hb => hapart b (hperm.mem_iff.mpr hb)

/-- Below the end of a branch is found what is found in its value. -/
theorem get?_append (h : Grafted base branches tree) {b : Branch} (hb : b ∈ branches)
    (rest : List String) : get? tree (b.1 ++ rest) = follow? b.2 rest := by
  rw [DataModel.get?_append, h.found b hb, Option.bind_some]

/-- On the way to the end of a branch stands an object. -/
theorem exists_obj (h : Grafted base branches tree) {b : Branch} (hb : b ∈ branches)
    {before behind : List String} {key : String} (hkeys : b.1 = before ++ key :: behind) :
    ∃ members, get? tree before = some (.obj members) := by
  have hfound := h.found b hb
  rw [hkeys] at hfound
  obtain ⟨members, hmembers, -⟩ := exists_obj_of_get?_append hfound
  exact ⟨members, hmembers⟩

/-- The base and the branches make out a tree, up to the order of members. -/
theorem sameUpToOrder {other : DataModel} (h : Grafted base branches tree)
    (hother : Grafted base branches other) (htree : (Json.obj tree).WellFormed)
    (hwf : (Json.obj other).WellFormed) : SameUpToOrder (.obj tree) (.obj other) := by
  refine (Json.sameUpToOrder_iff htree hwf).mpr fun keys => ?_
  cases keys with
  | nil => rfl
  | cons first rest =>
    rcases apart_or_prefix branches (first :: rest) with hapart | ⟨b, hb, behind, hkeys⟩ |
      ⟨b, hb, key, behind, hkeys⟩
    · rw [h.beside _ (List.cons_ne_nil _ _) hapart, hother.beside _ (List.cons_ne_nil _ _) hapart]
    · rw [hkeys, h.get?_append hb, hother.get?_append hb]
    · obtain ⟨members, hmembers⟩ := h.exists_obj hb hkeys
      obtain ⟨members', hmembers'⟩ := hother.exists_obj hb hkeys
      rw [hmembers, hmembers']
      rfl

/-! ## One change -/

/-- A write grafts one more branch, if it parts from those there are. -/
theorem set (h : Grafted base branches tree) {keys : List String} (hkeys : keys ≠ [])
    (hapart : ∀ b ∈ branches, Apart b.1 keys) (value : Json) :
    Grafted base (branches ++ [(keys, value)]) (DataModel.set tree keys value) where
  ne_nil b hb := by
    rcases List.mem_append.mp hb with hb | hb
    · exact h.ne_nil b hb
    · obtain rfl := List.mem_singleton.mp hb
      exact hkeys
  found b hb := by
    rcases List.mem_append.mp hb with hb | hb
    · -- an earlier branch is apart from the new one, so it is where it was
      obtain ⟨hbelow, habove⟩ := hapart b hb
      rw [get?_set_beside tree habove hbelow, h.found b hb]
    · obtain rfl := List.mem_singleton.mp hb
      have hself := get?_set_append tree hkeys value []
      rw [List.append_nil] at hself
      exact hself
  beside other hother hbeside := by
    obtain ⟨hkeys, hother'⟩ := hbeside (keys, value) (List.mem_append_right _ List.mem_cons_self)
    rw [get?_set_beside tree hkeys hother']
    exact h.beside other hother fun b hb => hbeside b (List.mem_append_left _ hb)

/-- A tree of branches alone has nothing but objects on the way along a path that parts from them. -/
theorem isObject_of_apart {members : DataModel} (h : Grafted [] branches members) {keys : List String}
    (hapart : ∀ b ∈ branches, Apart b.1 keys) {before behind : List String} {key : String} {leaf : Json}
    (hkeys : keys = before ++ key :: behind) (hleaf : get? members before = some leaf) :
    leaf.isObject = true := by
  cases before with
  | nil =>
    obtain rfl := Option.some.inj hleaf
    rfl
  | cons first rest =>
    -- apart from every branch no leaf is there, and below a branch the keys are not apart from it
    rcases apart_or_prefix branches (first :: rest) with hbeside | ⟨b, hb, more, hmore⟩ |
      ⟨b, hb, next, more, hmore⟩
    · have hnone := h.beside _ (List.cons_ne_nil _ _) hbeside
      rw [hleaf] at hnone
      cases hnone
    · refine absurd ?_ (hapart b hb).1
      rw [hkeys, hmore, List.append_assoc]
      exact List.prefix_append _ _
    · obtain ⟨inner, hinner⟩ := h.exists_obj hb hmore
      obtain rfl := Option.some.inj (hinner.symm.trans hleaf)
      rfl

/-- Beside the branches of an overlay nothing changes. -/
theorem get?_merge_of_apart {members : DataModel} (h : Grafted [] branches members)
    (hmembers : (Json.obj members).WellFormed) (tree : DataModel) {keys : List String}
    (hkeys : keys ≠ []) (hapart : ∀ b ∈ branches, Apart b.1 keys) :
    get? (DataModel.merge tree members) keys = get? tree keys := by
  have hnone : get? members keys = none := by
    rw [h.beside keys hkeys hapart]
    cases keys with
    | nil => exact absurd rfl hkeys
    | cons => rfl
  exact get?_merge_of_none hmembers tree hnone fun _ _ _ _ hsplit hleaf =>
    h.isObject_of_apart hapart hsplit hleaf

/-- An overlay of branches alone grafts them, if they part from those there are, and if an object among
their values comes where no members are. -/
theorem merge (h : Grafted base branches tree) {more : List Branch} {members : DataModel}
    (hmore : Grafted [] more members) (hmembers : (Json.obj members).WellFormed)
    (hapart : ∀ b ∈ branches, ∀ m ∈ more, Apart b.1 m.1)
    (hempty : ∀ m ∈ more, m.2.isObject = true → objectUnder (get? tree m.1) = []) :
    Grafted base (branches ++ more) (DataModel.merge tree members) where
  ne_nil b hb := (List.mem_append.mp hb).elim (h.ne_nil b) (hmore.ne_nil b)
  found b hb := by
    rcases List.mem_append.mp hb with hb | hb
    · -- the earlier branches are beside what is laid over
      rw [hmore.get?_merge_of_apart hmembers tree (h.ne_nil b hb) fun m hm => (hapart b hb m hm).symm]
      exact h.found b hb
    · obtain ⟨keys, value⟩ := b
      have hvalue := hmore.found _ hb
      -- an object is laid over what is there, which is nothing; any other value stands in its place
      cases value with
      | obj inner =>
        have hinner : (Json.obj inner).WellFormed := wellFormed_of_follow? hmembers hvalue
        have hmerge : DataModel.merge [] inner = inner := merge_of_nodup (wellFormed_obj_iff.mp hinner).1
        rw [get?_merge_of_obj hmembers tree hvalue, hempty _ hb rfl, hmerge]
      | null | bool | num | str | arr => exact get?_merge_of_leaf hmembers tree hvalue rfl
  beside keys hkeys hbeside := by
    rw [hmore.get?_merge_of_apart hmembers tree hkeys fun m hm => hbeside m (List.mem_append_right _ hm)]
    exact h.beside keys hkeys fun b hb => hbeside b (List.mem_append_left _ hb)

/-! ## Runs -/

/-- A run of changes grafts their branches, if each change grafts its own and the branches part from each
other. -/
theorem foldl {α : Type} {branch : α → Branch} {change : DataModel → α → DataModel} {xs : List α}
    (hchange : ∀ x ∈ xs, ∀ {done tree}, Grafted base done tree →
      (∀ d ∈ done, Apart d.1 (branch x).1) → Grafted base (done ++ [branch x]) (change tree x))
    (hapart : xs.Pairwise fun x y => Apart (branch x).1 (branch y).1) :
    Grafted base (xs.map branch) (xs.foldl change base) := by
  -- by the changes that are left, with the branches that are there already
  have hrun : ∀ (ys : List α) (done : List Branch) (tree : DataModel), (∀ y ∈ ys, y ∈ xs) →
      ys.Pairwise (fun x y => Apart (branch x).1 (branch y).1) →
      (∀ d ∈ done, ∀ y ∈ ys, Apart d.1 (branch y).1) → Grafted base done tree →
      Grafted base (done ++ ys.map branch) (ys.foldl change tree) := by
    intro ys
    induction ys with
    | nil =>
      intro done tree _ _ _ h
      simpa using h
    | cons y ys ih =>
      intro done tree hmem hpairwise hdone h
      obtain ⟨hy, hys⟩ := List.pairwise_cons.mp hpairwise
      have hnext := hchange y (hmem y List.mem_cons_self) h fun d hd => hdone d hd y List.mem_cons_self
      have hrest := ih (done ++ [branch y]) (change tree y)
        (fun z hz => hmem z (List.mem_cons_of_mem _ hz)) hys (fun d hd z hz => ?_) hnext
      · rw [List.append_assoc] at hrest
        exact hrest
      · rcases List.mem_append.mp hd with hd | hd
        · exact hdone d hd z (List.mem_cons_of_mem _ hz)
        · obtain rfl := List.mem_singleton.mp hd
          exact hy z hz
  exact hrun xs [] base (fun _ hx => hx) hapart nofun (Grafted.nil base)

end Grafted

/-! ## Flat overlays -/

/-- The branch that an entry of a flat overlay stands for. -/
def branchOf (e : String × Json) : Branch := (Path.segments e.1, e.2)

/-- Writes the values of entries one after the other, each at the path that is its name. -/
def setAll (model : DataModel) (entries : Record Json) : DataModel :=
  entries.foldl (fun model e => set model (Path.segments e.1) e.2) model

/-- The tree that an entry stands for is its branch alone, with a slash in its name or without. -/
theorem branch_eq_set {key : String} (h : Path.segments key ≠ []) (value : Json) :
    branch key value = set [] (Path.segments key) value := by
  unfold branch
  split
  · rfl
  · rename_i hslash
    have hne : key ≠ "" := by
      rintro rfl
      exact h (by decide +kernel)
    rw [Path.segments_of_isKey ⟨hne, by simpa using hslash⟩]
    rfl

/-- Entries whose paths part from each other stand for the tree of their branches alone. -/
theorem grafted_expandFlat {entries : Record Json} (hvalues : ∀ e ∈ entries, e.2.WellFormed)
    (hne : ∀ e ∈ entries, Path.segments e.1 ≠ [])
    (hapart : entries.Pairwise fun d e => Apart (Path.segments d.1) (Path.segments e.1)) :
    Grafted [] (entries.map branchOf) (expandFlat entries) := by
  refine Grafted.foldl (fun e he done tree hdone hbeside => ?_) hapart
  have hbranch : Grafted [] [branchOf e] (set [] (Path.segments e.1) e.2) :=
    (Grafted.nil []).set (hne e he) nofun e.2
  rw [branch_eq_set (hne e he)]
  refine hdone.merge hbranch (wellFormed_set wellFormed_empty _ (hvalues e he))
    (fun d hd m hm => ?_) (fun m hm _ => ?_)
  · obtain rfl := List.mem_singleton.mp hm
    exact hbeside d hd
  · -- the tree has branches only, and this is not below one of them
    obtain rfl := List.mem_singleton.mp hm
    obtain ⟨key, keys, hkeys⟩ := List.exists_cons_of_ne_nil (hne e he)
    have hnothing : get? tree (branchOf e).1 = get? [] (branchOf e).1 :=
      hdone.beside _ (hne e he) hbeside
    rw [hnothing, branchOf, hkeys]
    rfl

/-- Values that are written one by one, at paths that part from each other, graft their branches. -/
theorem grafted_setAll (base : DataModel) {entries : Record Json}
    (hne : ∀ e ∈ entries, Path.segments e.1 ≠ [])
    (hapart : entries.Pairwise fun d e => Apart (Path.segments d.1) (Path.segments e.1)) :
    Grafted base (entries.map branchOf) (setAll base entries) :=
  Grafted.foldl (fun e he _ _ hdone hbeside => hdone.set (hne e he) hbeside e.2) hapart

/-- Writing well-formed values keeps a data model well formed. -/
theorem wellFormed_setAll {base : DataModel} (hbase : (Json.obj base).WellFormed)
    {entries : Record Json} (h : ∀ e ∈ entries, e.2.WellFormed) :
    (Json.obj (setAll base entries)).WellFormed := by
  induction entries generalizing base with
  | nil => exact hbase
  | cons e entries ih =>
    obtain ⟨he, hrest⟩ := List.forall_mem_cons.mp h
    exact ih (wellFormed_set hbase _ he) hrest

end DataModel

/-! ## Messages -/

namespace Store

variable {s : Store} {id : String} {surface : Surface}

/-- An update that makes another model is accepted, and leaves the surface with that model. -/
theorem apply_of_updatedModel (hs : s.disposed = false) (hsurface : s.surface? id = some surface)
    {update : ModelUpdate} {model : DataModel}
    (hmodel : updatedModel s.acceptsOverlay surface.model update = .ok model) :
    (s.apply (.updateDataModel id update)).2 = .accepted id [] ∧
      (s.apply (.updateDataModel id update)).1.surface? id = some { surface with model := model } := by
  constructor
  · simp [apply, hs, effect, hsurface, hmodel, Message.surface]
  · rw [surface?_apply hs]
    simp [Message.surface, Message.onSurface, hsurface, hmodel]

/-- A value that is written below the root is never refused. -/
theorem updatedModel_write {path : String} (h : Path.segments path ≠ []) (acceptsOverlay : Bool)
    (model : DataModel) (value : Json) :
    updatedModel acceptsOverlay model (.write (some path) value) =
      .ok (model.set (Path.segments path) value) := by
  have hroot : path ≠ "/" := by
    rintro rfl
    exact h (by decide +kernel)
  simp [updatedModel, hroot, h]

/-- Updates at paths with keys are all accepted, and leave the surface with the model that the writes
make. -/
theorem applyAll_writes (hs : s.disposed = false) (hsurface : s.surface? id = some surface)
    {entries : Record Json} (h : ∀ e ∈ entries, Path.segments e.1 ≠ []) :
    let written := s.applyAll (entries.map fun e => .updateDataModel id (.write (some e.1) e.2))
    (∀ outcome ∈ written.2, outcome = .accepted id []) ∧
      written.1.surface? id =
        some { surface with model := DataModel.setAll surface.model entries } := by
  induction entries generalizing s surface with
  | nil => exact ⟨nofun, hsurface⟩
  | cons e entries ih =>
    obtain ⟨he, hrest⟩ := List.forall_mem_cons.mp h
    obtain ⟨haccepted, hnext⟩ :=
      apply_of_updatedModel hs hsurface (updatedModel_write he s.acceptsOverlay surface.model e.2)
    obtain ⟨houtcomes, hlast⟩ :=
      ih ((s.sameSettings_apply (.updateDataModel id (.write (some e.1) e.2))).2.trans hs) hnext hrest
    exact ⟨List.forall_mem_cons.mpr ⟨haccepted, houtcomes⟩, hlast⟩

/-- A flat overlay is its writes.  Let the values of an overlay be no objects, and let its names be paths
with keys that part from each other, with slashes or without.  Then to lay it over an object is, up to the
order of members, to write its values one by one, in any order.  So a message of the older form and the
messages that write its values one by one are accepted by a store that accepts the older form, where
their surface is, and leave that surface with data models that are equal up to the order of members. -/
theorem flat_overlay_is_its_writes {base : DataModel} (hbase : (Json.obj base).WellFormed)
    {entries : Record Json} (hentries : (Json.obj entries).WellFormed)
    (hleaf : ∀ e ∈ entries, e.2.isObject = false) (hne : ∀ e ∈ entries, Path.segments e.1 ≠ [])
    (hapart : entries.Pairwise fun d e => Path.Apart (Path.segments d.1) (Path.segments e.1))
    {order : Record Json} (horder : order.Perm entries) :
    Json.SameUpToOrder (.obj (DataModel.overlay base entries))
        (.obj (DataModel.setAll base order)) ∧
      ∀ (s : Store) (id : String) (surface : Surface), s.disposed = false → s.acceptsOverlay = true →
        s.surface? id = some surface → surface.model = base →
        let older := s.apply (.updateDataModel id (.overlay entries))
        let written := s.applyAll (order.map fun e => .updateDataModel id (.write (some e.1) e.2))
        older.2 = .accepted id [] ∧ (∀ outcome ∈ written.2, outcome = .accepted id []) ∧
          ∃ model model', older.1.surface? id = some { surface with model := model } ∧
            written.1.surface? id = some { surface with model := model' } ∧
            Json.SameUpToOrder (.obj model) (.obj model') := by
  have hvalues : ∀ e ∈ entries, e.2.WellFormed := (Json.wellFormed_obj_iff.mp hentries).2
  have hsame : Json.SameUpToOrder (.obj (DataModel.overlay base entries))
      (.obj (DataModel.setAll base order)) := by
    have hexpand := DataModel.grafted_expandFlat hvalues hne hapart
    have hwfExpand := DataModel.wellFormed_expandFlat hvalues
    -- no value is an object, so it does not matter what the base has at the ends of the branches
    have hoverlay : DataModel.Grafted base (entries.map DataModel.branchOf)
        (DataModel.overlay base entries) := by
      refine (DataModel.Grafted.nil base).merge hexpand hwfExpand nofun fun m hm hobject => ?_
      obtain ⟨e, he, rfl⟩ := List.mem_map.mp hm
      have hnot : e.2.isObject = true := hobject
      rw [hleaf e he] at hnot
      cases hnot
    have hapart' : order.Pairwise fun d e => Path.Apart (Path.segments d.1) (Path.segments e.1) :=
      horder.symm.pairwise hapart fun h => h.symm
    have hset := DataModel.grafted_setAll base (fun e he => hne e (horder.mem_iff.mp he)) hapart'
    refine hoverlay.sameUpToOrder (hset.perm (horder.symm.map _)) ?_ ?_
    · exact DataModel.wellFormed_merge hbase _ (Json.wellFormed_obj_iff.mp hwfExpand).2
    · exact DataModel.wellFormed_setAll hbase fun e he => hvalues e (horder.mem_iff.mp he)
  refine ⟨hsame, fun s id surface hs haccepts hsurface hmodel => ?_⟩
  subst hmodel
  have holder : updatedModel s.acceptsOverlay surface.model (.overlay entries) =
      .ok (surface.model.overlay entries) := by simp [updatedModel, haccepts]
  obtain ⟨haccepted, hafter⟩ := apply_of_updatedModel hs hsurface holder
  obtain ⟨houtcomes, hwritten⟩ :=
    applyAll_writes hs hsurface fun e he => hne e (horder.mem_iff.mp he)
  exact ⟨haccepted, houtcomes, _, _, hafter, hwritten, hsame⟩

/-- Values that come where a number, an array and an object are, under names with slashes and without. -/
theorem overlay_of_four_writes :
    let base : DataModel := [("n", .ofInt 1), ("l", .arr [.ofInt 1]), ("o", .obj [("x", .ofInt 1)])]
    let entries : Record Json :=
      [("/n/a", .bool true), ("l/0", .null), ("c", .arr []), ("//o/y/", .ofInt 2)]
    let s := ((empty true).applyAll [.createSurface "tile" .null .null [],
      .updateDataModel "tile" (.write none (.obj base))]).1
    let older := s.apply (.updateDataModel "tile" (.overlay entries))
    let written := s.applyAll
      (entries.reverse.map fun e => .updateDataModel "tile" (.write (some e.1) e.2))
    (Json.obj base).WellFormed ∧ (Json.obj entries).WellFormed ∧
      (∀ e ∈ entries, e.2.isObject = false) ∧ (∀ e ∈ entries, Path.segments e.1 ≠ []) ∧
      (entries.Pairwise fun d e => Path.Apart (Path.segments d.1) (Path.segments e.1)) ∧
      Json.SameUpToOrder (.obj (DataModel.overlay base entries))
        (.obj (DataModel.setAll base entries.reverse)) ∧
      older.2 = .accepted "tile" [] ∧ (∀ outcome ∈ written.2, outcome = .accepted "tile" []) ∧
      ∃ model model', older.1.surface? "tile" =
          some { Surface.create "tile" .null .null [] with model := model } ∧
        written.1.surface? "tile" =
          some { Surface.create "tile" .null .null [] with model := model' } ∧
        Json.SameUpToOrder (.obj model) (.obj model') := by
  intro base entries s older written
  have hbase : (Json.obj base).WellFormed := by
    simp [base, Json.WellFormed, Json.WellFormedMembers, Json.WellFormedItems, Record.keys,
      Json.ofInt]
  have hentries : (Json.obj entries).WellFormed := by
    simp [entries, Json.WellFormed, Json.WellFormedMembers, Json.WellFormedItems, Record.keys,
      Json.ofInt]
  have hleaf : ∀ e ∈ entries, e.2.isObject = false := by decide +kernel
  have hne : ∀ e ∈ entries, Path.segments e.1 ≠ [] := by decide +kernel
  have hapart : entries.Pairwise fun d e => Path.Apart (Path.segments d.1) (Path.segments e.1) := by
    simp only [Path.Apart]
    decide +kernel
  obtain ⟨hsame, hmessages⟩ := flat_overlay_is_its_writes hbase hentries hleaf hne hapart
    (List.reverse_perm entries)
  obtain ⟨holder, hwritten, model, model', h⟩ := hmessages s "tile"
    { Surface.create "tile" .null .null [] with model := base } rfl rfl (by decide +kernel) rfl
  exact ⟨hbase, hentries, hleaf, hne, hapart, hsame, holder, hwritten, model, model', h⟩

end Store

end UiSurface
