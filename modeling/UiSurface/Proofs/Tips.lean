import UiSurface.Proofs.Grafts

/-!
# Tips of a tree

A tip of a tree is what ends a branch: what is no object, or an object without members.  An overlay may be
written flat, with one entry for each tip of a tree under the path that leads to it.  The entries may come
in any order, since the tips make out the tree.

Main lemmas: `Path.segments_ofKeys` (the keys of a written path), `grafted_of_flatOf` (a tree is its tips,
grafted on nothing), `flatOf_flatten` (each tree has a flat overlay), `flat_and_nested_overlay_agree`.
-/

namespace UiSurface

/-! ## Paths written out -/

namespace Path

/-- The path of some keys, with a slash before each. -/
def ofKeys (keys : List String) : String :=
  String.ofList ('/' :: Text.joinWith '/' (keys.map String.toList))

/-- A path has the keys that it is written from. -/
theorem segments_ofKeys {keys : List String} (h : ∀ key ∈ keys, IsKey key) :
    segments (ofKeys keys) = keys := by
  have hfirst : Text.splitAt '/' (ofKeys keys).toList =
      [] :: Text.splitAt '/' (Text.joinWith '/' (keys.map String.toList)) := by
    simp [ofKeys, Text.splitAt]
  -- the slash in front makes an empty piece, which does not count
  rw [segments, hfirst, List.filter_cons_of_neg (by simp)]
  cases keys with
  | nil => rfl
  | cons key keys =>
    have hslash : ∀ piece ∈ (key :: keys).map String.toList, '/' ∉ piece := by
      intro piece hpiece
      obtain ⟨name, hname, rfl⟩ := List.mem_map.mp hpiece
      exact (h name hname).2
    have hfull : ∀ piece ∈ (key :: keys).map String.toList, (!piece.isEmpty) = true := by
      intro piece hpiece
      obtain ⟨name, hname, rfl⟩ := List.mem_map.mp hpiece
      simpa using (h name hname).1
    rw [Text.splitAt_joinWith (by simp) hslash, List.filter_eq_self.mpr hfull, List.map_map]
    simp [Function.comp_def]

end Path

/-- What ends a branch: what is no object, or an object without members. -/
def Json.isTip : Json → Bool
  | .obj members => members.isEmpty
  | _ => true

namespace DataModel

open Json (SameUpToOrder wellFormed_obj_iff wellFormed_of_get? objectInduction)
open UiSurface.Path (IsKey Apart)

/-! ## Tips and paths -/

/-- Nothing is found below a tip. -/
theorem follow?_of_isTip {v : Json} (h : v.isTip = true) (key : String) (keys : List String) :
    follow? v (key :: keys) = none := by
  cases v with
  | obj members =>
    obtain rfl := List.isEmpty_iff.mp h
    rfl
  | null | bool | num | str | arr => rfl

/-- Every value has a tip. -/
theorem exists_tip (v : Json) (h : v.WellFormed) :
    ∃ keys tip, follow? v keys = some tip ∧ tip.isTip = true := by
  induction v using objectInduction with
  | leaf v hv =>
    refine ⟨[], v, rfl, ?_⟩
    cases v with
    | obj members => cases hv
    | null | bool | num | str | arr => rfl
  | obj members ih =>
    cases members with
    | nil => exact ⟨[], .obj [], rfl, rfl⟩
    | cons e rest =>
      obtain ⟨key, value⟩ := e
      have hvalue : Record.get? ((key, value) :: rest) key = some value := by simp [Record.get?]
      obtain ⟨keys, tip, hfound, htip⟩ := ih _ List.mem_cons_self (wellFormed_of_get? h hvalue)
      exact ⟨key :: keys, tip, by rw [follow?_cons]; simp [Json.members?, hvalue, hfound], htip⟩

/-- All names in the objects of a tree can stand in paths as they are. -/
def PlainKeys (tree : DataModel) : Prop :=
  ∀ keys members, get? tree keys = some (.obj members) → ∀ key ∈ Record.keys members, IsKey key

/-- It is enough to look at the names of an object, and at the objects among its values. -/
theorem plainKeys_of_members {tree : DataModel} (hkeys : ∀ e ∈ tree, IsKey e.1)
    (hinner : ∀ e ∈ tree, ∀ inner, e.2 = .obj inner → PlainKeys inner) : PlainKeys tree := by
  intro keys members hfound name hname
  cases keys with
  | nil =>
    obtain rfl := Json.obj.inj (Option.some.inj hfound)
    obtain ⟨e, he, rfl⟩ := List.mem_map.mp hname
    exact hkeys e he
  | cons key keys =>
    obtain ⟨value, hvalue, hrest⟩ := Option.bind_eq_some_iff.mp ((get?_cons ..).symm.trans hfound)
    have hmem := Record.mem_of_get?_eq_some hvalue
    cases value with
    | obj inner => exact hinner _ hmem inner rfl keys members hrest name hname
    | null | bool | num | str | arr => cases keys <;> cases hrest

/-- The keys of a plain tree are keys. -/
theorem PlainKeys.isKey_of_get? {tree : DataModel} (h : PlainKeys tree) {keys : List String}
    {v : Json} (hfound : get? tree keys = some v) : ∀ key ∈ keys, IsKey key := by
  intro key hkey
  obtain ⟨before, behind, rfl⟩ := List.append_of_mem hkey
  obtain ⟨members, hmembers, hmem⟩ := exists_obj_of_get?_append hfound
  exact h before members hmembers key hmem

/-! ## Flat overlays -/

/-- A flat overlay of a tree: for each tip of the tree it has one entry, under the path of the keys that
lead there, and no other.  The entries may come in any order. -/
structure FlatOf (flat : Record Json) (tree : DataModel) : Prop where
  nodup : (Record.keys flat).Nodup
  mem_iff : ∀ name value, (name, value) ∈ flat ↔
    ∃ keys, keys ≠ [] ∧ get? tree keys = some value ∧ value.isTip = true ∧ name = Path.ofKeys keys

/-- The entries of a flat overlay may come in any order. -/
theorem FlatOf.perm {flat other : Record Json} {tree : DataModel} (h : FlatOf flat tree)
    (hperm : other.Perm flat) : FlatOf other tree where
  nodup := (hperm.map Prod.fst).nodup_iff.mpr h.nodup
  mem_iff name value := hperm.mem_iff.trans (h.mem_iff name value)

section Flat

variable {tree : DataModel} (htree : (Json.obj tree).WellFormed) (hplain : PlainKeys tree)
  {flat : Record Json} (hflat : FlatOf flat tree)

include hplain hflat

/-- The branch of an entry leads to its tip. -/
theorem FlatOf.tip_of_mem {e : String × Json} (he : e ∈ flat) :
    Path.segments e.1 ≠ [] ∧ get? tree (Path.segments e.1) = some e.2 ∧ e.2.isTip = true ∧
      e.1 = Path.ofKeys (Path.segments e.1) := by
  obtain ⟨keys, hne, hfound, htip, hname⟩ := (hflat.mem_iff e.1 e.2).mp he
  have hkeys : Path.segments e.1 = keys := by
    rw [hname, Path.segments_ofKeys (hplain.isKey_of_get? hfound)]
  rw [hkeys]
  exact ⟨hne, hfound, htip, hname⟩

/-- No tip stands below another, so the paths of the entries part from each other. -/
theorem FlatOf.pairwise_apart :
    flat.Pairwise fun d e => Apart (Path.segments d.1) (Path.segments e.1) := by
  have hsame : ∀ d ∈ flat, ∀ e ∈ flat, Path.segments d.1 <+: Path.segments e.1 → d.1 = e.1 := by
    intro d hd e he hle
    obtain ⟨-, hfound, htip, hname⟩ := hflat.tip_of_mem hplain hd
    obtain ⟨-, hfound', -, hname'⟩ := hflat.tip_of_mem hplain he
    obtain ⟨rest, hrest⟩ := hle
    cases rest with
    | nil => rw [hname, hname', ← hrest, List.append_nil]
    | cons key rest =>
      rw [← hrest, get?_append, hfound, Option.bind_some, follow?_of_isTip htip] at hfound'
      cases hfound'
  have hne : flat.Pairwise fun d e => d.1 ≠ e.1 := List.pairwise_map.mp hflat.nodup
  refine hne.imp_of_mem fun {d e} hd he hname => ⟨fun h => hname ?_, fun h => hname ?_⟩
  · exact hsame d hd e he h
  · exact (hsame e he d hd h).symm

include htree

/-- A tree is its tips, grafted on nothing. -/
theorem grafted_of_flatOf : Grafted [] (flat.map branchOf) tree where
  ne_nil b hb := by
    obtain ⟨e, he, rfl⟩ := List.mem_map.mp hb
    exact (hflat.tip_of_mem hplain he).1
  found b hb := by
    obtain ⟨e, he, rfl⟩ := List.mem_map.mp hb
    exact (hflat.tip_of_mem hplain he).2.1
  beside keys hkeys hapart := by
    cases hfound : get? tree keys with
    | none =>
      cases keys with
      | nil => exact absurd rfl hkeys
      | cons => rfl
    | some v =>
      -- what is found there has a tip, and the branch of that does not part from the path
      obtain ⟨rest, tip, hrest, htip⟩ := exists_tip v (wellFormed_of_follow? htree hfound)
      have hend : get? tree (keys ++ rest) = some tip := by
        rw [get?_append, hfound, Option.bind_some, hrest]
      have hmem : (Path.ofKeys (keys ++ rest), tip) ∈ flat :=
        (hflat.mem_iff _ _).mpr ⟨keys ++ rest, by simp [hkeys], hend, htip, rfl⟩
      have hbranch := (hapart _ (List.mem_map_of_mem hmem)).2
      rw [branchOf, Path.segments_ofKeys (hplain.isKey_of_get? hend)] at hbranch
      exact absurd (List.prefix_append keys rest) hbranch

theorem FlatOf.wellFormed_of_mem {e : String × Json} (he : e ∈ flat) : e.2.WellFormed :=
  wellFormed_of_follow? htree (hflat.tip_of_mem hplain he).2.1

/-- A flat overlay stands for its tree, up to the order of members. -/
theorem FlatOf.expandFlat_sameUpToOrder : SameUpToOrder (.obj (expandFlat flat)) (.obj tree) := by
  have hvalues : ∀ e ∈ flat, e.2.WellFormed := fun _ => hflat.wellFormed_of_mem htree hplain
  have hexpand := grafted_expandFlat hvalues (fun _ he => (hflat.tip_of_mem hplain he).1)
    (hflat.pairwise_apart hplain)
  exact hexpand.sameUpToOrder (grafted_of_flatOf htree hplain hflat) (wellFormed_expandFlat hvalues)
    htree

end Flat

/-- An overlay without a slash in its names stands for itself. -/
theorem expandFlat_of_plain {entries : Record Json} (hnodup : (Record.keys entries).Nodup)
    (hslash : ∀ name ∈ Record.keys entries, '/' ∉ name.toList) : expandFlat entries = entries := by
  -- the fold has put down what it has seen, with the rest still to come
  have hrun : ∀ (rest done : Record Json), done ++ rest = entries →
      rest.foldl (fun tree e => merge tree (branch e.1 e.2)) done = done ++ rest := by
    intro rest
    induction rest with
    | nil =>
      intro done _
      rw [List.foldl_nil, List.append_nil]
    | cons e rest ih =>
      obtain ⟨name, value⟩ := e
      intro done hentries
      have hname : name ∈ Record.keys entries := by
        rw [← hentries]
        exact Record.mem_keys_of_mem (e := (name, value)) (by simp)
      have hbranch : branch name value = [(name, value)] := by simp [branch, hslash name hname]
      have hnext : (done ++ [(name, value)]) ++ rest = entries := by simpa using hentries
      have hdone : (Record.keys (done ++ [(name, value)])).Nodup := by
        rw [← hnext, Record.keys, List.map_append] at hnodup
        exact (List.nodup_append.mp hnodup).1
      rw [List.foldl_cons, hbranch, merge_of_nodup hdone, ih _ hnext, hnext, hentries]
  exact hrun entries [] rfl

/-! ## The flat overlay of a tree -/

mutual

/-- The tips of a value, each at the end of the keys that lead to it. -/
def tipsUnder : Json → List Branch
  | .obj members => if members.isEmpty then [([], .obj [])] else tips members
  | v => [([], v)]

/-- The tips of an object, each at the end of the keys that lead to it. -/
def tips : List (String × Json) → List Branch
  | [] => []
  | (key, value) :: rest => (tipsUnder value).map (fun b => (key :: b.1, b.2)) ++ tips rest

end

/-- A tree written flat: its tips, in their order, under the paths that lead to them. -/
def flatten (tree : DataModel) : Record Json := (tips tree).map fun b => (Path.ofKeys b.1, b.2)

theorem mem_tips {members : List (String × Json)} {b : Branch} :
    b ∈ tips members ↔ ∃ e ∈ members, ∃ c ∈ tipsUnder e.2, b = (e.1 :: c.1, c.2) := by
  induction members with
  | nil => simp [tips]
  | cons e members ih =>
    obtain ⟨key, value⟩ := e
    simp only [tips, List.mem_append, List.mem_map, ih, List.mem_cons, exists_eq_or_imp, eq_comm]

/-- The tips of an object are what its members have. -/
theorem mem_tips_iff {members : List (String × Json)} (h : (Record.keys members).Nodup)
    (hvalues : ∀ e ∈ members, ∀ keys tip, (keys, tip) ∈ tipsUnder e.2 ↔
      follow? e.2 keys = some tip ∧ tip.isTip = true) (keys : List String) (tip : Json) :
    (keys, tip) ∈ tips members ↔ keys ≠ [] ∧ get? members keys = some tip ∧ tip.isTip = true := by
  rw [mem_tips]
  constructor
  · rintro ⟨e, he, c, hc, heq⟩
    obtain ⟨rfl, rfl⟩ := Prod.mk.inj heq
    obtain ⟨hfound, htip⟩ := (hvalues e he c.1 c.2).mp hc
    refine ⟨List.cons_ne_nil _ _, ?_, htip⟩
    rw [get?_cons, Record.get?_of_mem h he, Option.bind_some, hfound]
  · rintro ⟨hne, hfound, htip⟩
    obtain ⟨key, rest, rfl⟩ := List.exists_cons_of_ne_nil hne
    obtain ⟨value, hvalue, hrest⟩ := Option.bind_eq_some_iff.mp ((get?_cons ..).symm.trans hfound)
    have hmem := Record.mem_of_get?_eq_some hvalue
    exact ⟨_, hmem, (rest, tip), (hvalues _ hmem rest tip).mpr ⟨hrest, htip⟩, rfl⟩

/-- The tips of a value are what its branches end with. -/
theorem mem_tipsUnder_iff (v : Json) : v.WellFormed → ∀ keys tip,
    (keys, tip) ∈ tipsUnder v ↔ follow? v keys = some tip ∧ tip.isTip = true := by
  -- a tip has one tip, and it is found at once
  have htip : ∀ {v : Json}, v.isTip = true → ∀ keys tip,
      (keys, tip) = ([], v) ↔ follow? v keys = some tip ∧ tip.isTip = true := by
    intro v hv keys tip
    cases keys with
    | nil =>
      simp only [Prod.mk.injEq, true_and, follow?, Option.some.injEq]
      exact ⟨fun h => ⟨h.symm, h ▸ hv⟩, fun h => h.1.symm⟩
    | cons key keys => simp [follow?_of_isTip hv]
  induction v using objectInduction with
  | leaf v hv =>
    intro _ keys tip
    cases v with
    | obj members => cases hv
    | null | bool | num | str | arr => simpa [tipsUnder] using htip rfl keys tip
  | obj members ih =>
    intro hwf keys tip
    obtain ⟨hnodup, hvalues⟩ := wellFormed_obj_iff.mp hwf
    rw [tipsUnder]
    cases members with
    | nil => simpa using htip rfl keys tip
    | cons e rest =>
      rw [if_neg (by simp), mem_tips_iff hnodup fun e he => ih e he (hvalues e he)]
      constructor
      · rintro ⟨-, h⟩
        exact h
      · intro h
        refine ⟨?_, h⟩
        -- an object with members is no tip
        rintro rfl
        obtain ⟨hfound, htip⟩ := h
        obtain rfl := Option.some.inj hfound
        cases htip

/-- No two tips of an object are at the end of the same keys. -/
theorem nodup_tips {members : List (String × Json)} (h : (Record.keys members).Nodup)
    (hvalues : ∀ e ∈ members, ((tipsUnder e.2).map Prod.fst).Nodup) :
    ((tips members).map Prod.fst).Nodup := by
  induction members with
  | nil => simp [tips]
  | cons e members ih =>
    obtain ⟨key, value⟩ := e
    obtain ⟨hkey, hrest⟩ := List.nodup_cons.mp h
    obtain ⟨hvalue, hothers⟩ := List.forall_mem_cons.mp hvalues
    have hfirst : ((tipsUnder value).map fun b => key :: b.1).Nodup := by
      refine List.pairwise_map.mpr ((List.pairwise_map.mp hvalue).imp fun hne heq => hne ?_)
      exact (List.cons.inj heq).2
    have hparts : ((tips ((key, value) :: members)).map Prod.fst) =
        ((tipsUnder value).map fun b => key :: b.1) ++ (tips members).map Prod.fst := by
      simp [tips, Function.comp_def]
    rw [hparts]
    refine List.nodup_append.mpr ⟨hfirst, ih hrest hothers, ?_⟩
    -- paths of different members differ in their first key
    rintro p hp q hq rfl
    obtain ⟨b, -, rfl⟩ := List.mem_map.mp hp
    obtain ⟨c, hc, hpath⟩ := List.mem_map.mp hq
    obtain ⟨e, he, d, -, rfl⟩ := mem_tips.mp hc
    have hname : e.1 = key := (List.cons.inj hpath).1
    have hmem : e.1 ∈ Record.keys members := Record.mem_keys_of_mem he
    exact hkey (hname ▸ hmem)

/-- No two tips end one branch. -/
theorem nodup_tipsUnder (v : Json) : v.WellFormed → ((tipsUnder v).map Prod.fst).Nodup := by
  induction v using objectInduction with
  | leaf v hv =>
    intro _
    cases v with
    | obj members => cases hv
    | null | bool | num | str | arr => simp [tipsUnder]
  | obj members ih =>
    intro hwf
    obtain ⟨hnodup, hvalues⟩ := wellFormed_obj_iff.mp hwf
    rw [tipsUnder]
    split
    · simp
    · exact nodup_tips hnodup fun e he => ih e he (hvalues e he)

/-- A tree whose names can stand in paths has a flat overlay. -/
theorem flatOf_flatten {tree : DataModel} (htree : (Json.obj tree).WellFormed)
    (hplain : PlainKeys tree) : FlatOf (flatten tree) tree := by
  obtain ⟨hnodup, hvalues⟩ := wellFormed_obj_iff.mp htree
  have hmem := mem_tips_iff hnodup fun e he => mem_tipsUnder_iff e.2 (hvalues e he)
  constructor
  · have hpaths := nodup_tips hnodup fun e he => nodup_tipsUnder e.2 (hvalues e he)
    have hkeys : Record.keys (flatten tree) = (tips tree).map fun b => Path.ofKeys b.1 := by
      simp [Record.keys, flatten, Function.comp_def]
    rw [hkeys]
    refine List.pairwise_map.mpr ((List.pairwise_map.mp hpaths).imp_of_mem ?_)
    -- different paths have different texts, as the segments are read back from them
    intro b c hb hc hne heq
    have hb' := hplain.isKey_of_get? ((hmem b.1 b.2).mp hb).2.1
    have hc' := hplain.isKey_of_get? ((hmem c.1 c.2).mp hc).2.1
    exact hne (by rw [← Path.segments_ofKeys hb', heq, Path.segments_ofKeys hc'])
  · intro name value
    rw [flatten, List.mem_map]
    constructor
    · rintro ⟨b, hb, heq⟩
      obtain ⟨rfl, rfl⟩ := Prod.mk.inj heq
      obtain ⟨hne, hfound, htip⟩ := (hmem b.1 b.2).mp hb
      exact ⟨b.1, hne, hfound, htip, rfl⟩
    · rintro ⟨keys, hne, hfound, htip, rfl⟩
      exact ⟨(keys, value), (hmem keys value).mpr ⟨hne, hfound, htip⟩, rfl⟩

/-- Flat and nested overlays are the same overlay.  Let no name in a tree be empty or have a slash in it.
Then the tree can be written flat, and however its entries are ordered, a flat overlay of it stands for
the tree, up to the order of members.  So to lay it over an object makes of that, up to the order of
members, what it is to lay the tree over it. -/
theorem flat_and_nested_overlay_agree {tree : DataModel} (htree : (Json.obj tree).WellFormed)
    (hplain : PlainKeys tree) :
    FlatOf (flatten tree) tree ∧ ∀ flat, FlatOf flat tree →
      SameUpToOrder (.obj (expandFlat flat)) (.obj tree) ∧
      ∀ base, (Json.obj base).WellFormed →
        SameUpToOrder (.obj (overlay base flat)) (.obj (overlay base tree)) := by
  refine ⟨flatOf_flatten htree hplain, fun flat hflat => ?_⟩
  have hsame := hflat.expandFlat_sameUpToOrder htree hplain
  have hslash : ∀ name ∈ Record.keys tree, '/' ∉ name.toList :=
    fun name hname => (hplain [] tree rfl name hname).2
  have hitself : expandFlat tree = tree := expandFlat_of_plain (wellFormed_obj_iff.mp htree).1 hslash
  refine ⟨hsame, fun base hbase => ?_⟩
  rw [overlay, overlay, hitself]
  exact hsame.merge (wellFormed_expandFlat fun _ => hflat.wellFormed_of_mem htree hplain) htree hbase

/-- A tree with an empty object, an array that holds an object, and a name beside them, laid flat and nested
over an object that has a number and an array where the tree has objects. -/
theorem flat_tile_agrees_with_nested_tile :
    let tree : DataModel := [("o", .obj [("x", .ofInt 1), ("e", .obj [])]),
      ("l", .arr [.obj [("a/b", .null)]]), ("s", .str "t")]
    let base : DataModel := [("o", .obj [("e", .ofInt 2), ("y", .null)]), ("l", .arr [])]
    let flat : Record Json := [("/s", .str "t"), ("/o/e", .obj []),
      ("/l", .arr [.obj [("a/b", .null)]]), ("/o/x", .ofInt 1)]
    (Json.obj tree).WellFormed ∧ PlainKeys tree ∧ FlatOf flat tree ∧ (Json.obj base).WellFormed ∧
      SameUpToOrder (.obj (expandFlat flat)) (.obj tree) ∧
      SameUpToOrder (.obj (overlay base flat)) (.obj (overlay base tree)) := by
  intro tree base flat
  have htree : (Json.obj tree).WellFormed := by
    simp [tree, Json.WellFormed, Json.WellFormedMembers, Json.WellFormedItems, Record.keys, Json.ofInt]
  have hbase : (Json.obj base).WellFormed := by
    simp [base, Json.WellFormed, Json.WellFormedMembers, Json.WellFormedItems, Record.keys, Json.ofInt]
  have hplain : PlainKeys tree := by
    refine plainKeys_of_members (by decide +kernel) fun e he inner hinner => ?_
    have hcases : inner = [("x", .ofInt 1), ("e", .obj [])] := by
      simp only [tree, List.mem_cons, List.not_mem_nil, or_false] at he
      rcases he with rfl | rfl | rfl <;> cases hinner
      rfl
    subst hcases
    refine plainKeys_of_members (by decide +kernel) fun e he inner hinner => ?_
    obtain rfl : inner = [] := by
      simp only [List.mem_cons, List.not_mem_nil, or_false] at he
      rcases he with rfl | rfl <;> cases hinner
      rfl
    exact plainKeys_of_members (by simp) (by simp)
  obtain ⟨hflatten, hagree⟩ := flat_and_nested_overlay_agree htree hplain
  have hflat : FlatOf flat tree := hflatten.perm (by decide +kernel)
  obtain ⟨hsame, hover⟩ := hagree flat hflat
  exact ⟨htree, hplain, hflat, hbase, hsame, hover base hbase⟩

end DataModel

end UiSurface
