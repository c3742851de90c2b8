import UiSurface.Proofs.Keeping
import Mathlib.Data.List.Basic

/-!
# Lists of folders with anything in them

A file that is no JSON array is passed over, and so is a text that is no JSON.  Two kinds of text are
not: an array with an item that is no object, and a text with an integer of too many digits.  One file
of these kinds spoils the list, and the fault is that of the first such file by name.  Without one, the
list has a design for each file that is an array of objects, and no other.  What is in the file of its
own id is found in any case, for it is looked for there first.

Main lemmas: `readDesign_eq` (what comes of one file), `list_eq` (what comes of all),
`Folder.lists_all_unless_one_spoils`.
-/

namespace UiSurface

/-- Where each step has a fault or a result of its own, a list has the first fault, or else all
results. -/
theorem Fallible.mapM_eq_findSome? {ε α β : Type} {f : α → Except ε β} {fault? : α → Option ε}
    {result : α → β} (h : ∀ a, f a = (fault? a).elim (.ok (result a)) .error) (as : List α) :
    as.mapM f = (as.findSome? fault?).elim (.ok (as.map result)) .error := by
  induction as with
  | nil => rfl
  | cons a as ih =>
    rw [List.mapM_cons, h a, ih, List.findSome?_cons]
    cases fault? a with
    | some fault => rfl
    | none => cases as.findSome? fault? <;> rfl

namespace Design

/-- The messages of a batch are its items, each of them an object. -/
theorem messagesOf?_eq_some_iff {items : List Json} {messages : List (Record Json)} :
    messagesOf? (.arr items) = some messages ↔ items = messages.map .obj := by
  refine ⟨fun h => ?_, fun h => h ▸ messagesOf?_objects messages⟩
  have hitems : items.mapM Json.members? = some messages := h
  clear h
  -- item by item, each of which has to be an object
  induction items generalizing messages with
  | nil =>
    obtain rfl := Option.some.inj hitems
    rfl
  | cons v vs ih =>
    rw [List.mapM_cons] at hitems
    obtain ⟨members, hv, hrest⟩ := Option.bind_eq_some_iff.mp hitems
    obtain ⟨later, hlater, hmessages⟩ := Option.bind_eq_some_iff.mp hrest
    obtain rfl := Option.some.inj hmessages
    obtain rfl : v = .obj members := by
      cases v <;> simp_all [Json.members?]
    rw [List.map_cons, ih hlater]

/-- A batch has its messages exactly if all its items are objects. -/
theorem isSome_messagesOf? (items : List Json) :
    (messagesOf? (.arr items)).isSome = items.all Json.isObject := by
  show (items.mapM Json.members?).isSome = _
  induction items with
  | nil => rfl
  | cons v vs ih =>
    rw [List.mapM_cons, List.all_cons, ← ih]
    cases hv : v.members? <;> cases vs.mapM Json.members? <;> simp [Json.isObject, hv]

end Design

namespace Folder

/-! ## One file -/

/-- The fault of a text that spoils every list that its file would be in. -/
def spoilt? (text : String) : Option StorageFault :=
  match Json.ofText text with
  | .ok (.arr items) => if items.all Json.isObject then none else some .notMessages
  | .error (.digits fault) => some (.digits fault)
  | .ok _ | .error (.malformed ..) => none

/-- The design of a text that is an array of objects. -/
def held? (stem text : String) : Option Design :=
  match Json.ofText text with
  | .ok batch => (Design.messagesOf? batch).map fun messages =>
    ⟨Design.idOf (messages.map .obj) stem, messages⟩
  | .error _ => none

/-- A file is faulted if its text spoils the list, and otherwise it has the design of its text, if that
is an array of objects. -/
theorem readDesign_eq (stem text : String) :
    readDesign stem text = (spoilt? text).elim (.ok (held? stem text)) .error := by
  unfold readDesign spoilt? held?
  cases Json.ofText text with
  | error fault => cases fault <;> rfl
  | ok v =>
    cases v with
    | arr items =>
      -- an array is a design just if all its items are objects
      have hobjects := Design.isSome_messagesOf? items
      cases hmessages : Design.messagesOf? (.arr items) with
      | none =>
        rw [hmessages, Option.isSome_none] at hobjects
        simp [Design.ofBatch, hmessages, ← hobjects, Except.map]
      | some messages =>
        obtain rfl := Design.messagesOf?_eq_some_iff.mp hmessages
        rw [hmessages, Option.isSome_some] at hobjects
        simp only [Design.ofBatch, hmessages, ← hobjects, if_true]
        rfl
    | null | bool | num | str | obj => rfl

/-- A text that has a design spoils no list. -/
theorem spoilt?_of_held {stem text : String} {d : Design} (h : held? stem text = some d) :
    spoilt? text = none := by
  unfold held? at h
  unfold spoilt?
  cases htext : Json.ofText text with
  | error fault =>
    rw [htext] at h
    cases h
  | ok v =>
    rw [htext] at h
    obtain ⟨messages, hmessages, -⟩ := Option.map_eq_some_iff.mp h
    cases v with
    | arr items =>
      have hobjects : items.all Json.isObject = true := by
        rw [← Design.isSome_messagesOf?, hmessages, Option.isSome_some]
      simp only [hobjects, if_true]
    | null | bool | num | str | obj => rfl

/-! ## All files -/

/-- The list of a folder has the fault of the first file that spoils it, or else the designs of all
files. -/
theorem list_eq (f : Folder) :
    f.list = (f.designFiles.findSome? fun e => spoilt? e.2).elim
      (.ok (Design.sort (f.designFiles.filterMap fun e => held? e.1 e.2))) .error := by
  rw [Folder.list, Fallible.mapM_eq_findSome? (f := fun e : String × String => readDesign e.1 e.2)
    fun e => readDesign_eq e.1 e.2]
  cases f.designFiles.findSome? fun e => spoilt? e.2 with
  | some fault => rfl
  | none => simp [Except.map, List.filterMap_map]

/-- What is so of the text of a design file is so of the text of a file that has the name of one. -/
theorem exists_designFiles_iff (f : Folder) (p : String → Prop) :
    (∃ e ∈ f.designFiles, p e.2) ↔ ∃ e ∈ f.files, (stem? e.1).isSome = true ∧ p e.2 := by
  simp only [designFiles, List.mem_filterMap, List.mem_mergeSort, Option.map_eq_some_iff]
  constructor
  · rintro ⟨_, ⟨e, he, stem, hstem, rfl⟩, hp⟩
    exact ⟨e, he, by simp [hstem], hp⟩
  · rintro ⟨e, he, hthere, hp⟩
    obtain ⟨stem, hstem⟩ := Option.isSome_iff_exists.mp hthere
    exact ⟨(stem, e.2), ⟨e, he, stem, hstem, rfl⟩, hp⟩

/-- A list that fails has the fault of a file that spoils it. -/
theorem exists_spoilt_of_list {f : Folder} {fault : StorageFault} (h : f.list = .error fault) :
    ∃ e ∈ f.files, (stem? e.1).isSome = true ∧ spoilt? e.2 = some fault := by
  rw [list_eq] at h
  cases hfirst : f.designFiles.findSome? fun e => spoilt? e.2 with
  | none =>
    rw [hfirst] at h
    cases h
  | some first =>
    rw [hfirst] at h
    obtain rfl := Except.error.inj h
    exact (f.exists_designFiles_iff fun text => spoilt? text = some first).mp
      (List.exists_of_findSome?_eq_some hfirst)

/-- A list that is there has the designs of all files, and none of them spoilt it. -/
theorem designs_of_list {f : Folder} {designs : List Design} (h : f.list = .ok designs) :
    designs = Design.sort (f.designFiles.filterMap fun e => held? e.1 e.2) ∧
      ∀ e ∈ f.files, (stem? e.1).isSome = true → spoilt? e.2 = none := by
  rw [list_eq] at h
  cases hfirst : f.designFiles.findSome? fun e => spoilt? e.2 with
  | none =>
    rw [hfirst] at h
    refine ⟨(Except.ok.inj h).symm, fun e he hthere => ?_⟩
    by_contra hspoilt
    obtain ⟨file, hfile, hspoilt⟩ :=
      (f.exists_designFiles_iff fun text => spoilt? text ≠ none).mpr ⟨e, he, hthere, hspoilt⟩
    exact hspoilt (List.findSome?_eq_none_iff.mp hfirst file hfile)
  | some first =>
    rw [hfirst] at h
    cases h

/-- The design files hold, up to their order, what all files hold that have the name of one. -/
theorem filterMap_designFiles_perm (f : Folder) :
    (f.designFiles.filterMap fun e => held? e.1 e.2).Perm
      (f.files.filterMap fun e => (stem? e.1).bind fun stem => held? stem e.2) := by
  have hsorted : f.designFiles.filterMap (fun e => held? e.1 e.2) =
      (f.files.mergeSort fun a b => decide (a.1 ≤ b.1)).filterMap
        fun e => (stem? e.1).bind fun stem => held? stem e.2 := by
    rw [designFiles, List.filterMap_filterMap]
    refine List.filterMap_congr fun e _ => ?_
    cases stem? e.1 <;> rfl
  rw [hsorted]
  exact (List.mergeSort_perm _ _).filterMap _

/-- A folder with anything in its files.  It can be listed exactly if none of its design files spoils
the list; if one does, the fault is that of such a file.  A list has exactly one design for each design
file whose text is an array of objects, in the order of their ids.  And a design that is in the file of
its own id is found, whatever is in any other file. -/
theorem lists_all_unless_one_spoils (f : Folder) :
    ((∃ designs, f.list = .ok designs) ↔
      ∀ e ∈ f.files, (stem? e.1).isSome = true → spoilt? e.2 = none) ∧
    (∀ fault, f.list = .error fault →
      ∃ e ∈ f.files, (stem? e.1).isSome = true ∧ spoilt? e.2 = some fault) ∧
    (∀ designs, f.list = .ok designs →
      designs.Perm (f.files.filterMap fun e => (stem? e.1).bind fun stem => held? stem e.2) ∧
        designs.Pairwise fun d e => Text.precedes d.id e.id = true) ∧
    ∀ id text d, Design.isValidId id = true → f.text? (fileName id) = some text →
      held? id text = some d → d.id = id → f.get? (.str id) = .ok (some d) := by
  refine ⟨⟨?_, fun hsound => ?_⟩, fun fault => exists_spoilt_of_list, fun designs hdesigns => ?_, ?_⟩
  · rintro ⟨designs, hdesigns⟩
    exact (designs_of_list hdesigns).2
  · cases hresult : f.list with
    | ok designs => exact ⟨designs, rfl⟩
    | error fault =>
      -- a listing that fails was spoilt by one of the files
      obtain ⟨e, he, hthere, hspoilt⟩ := exists_spoilt_of_list hresult
      rw [hsound e he hthere] at hspoilt
      cases hspoilt
  · obtain ⟨rfl, -⟩ := designs_of_list hdesigns
    exact ⟨(Design.sort_perm _).trans f.filterMap_designFiles_perm, Design.pairwise_sort _⟩
  · rintro id text d hvalid htext hheld rfl
    have hread : readDesign d.id text = .ok (some d) := by
      rw [readDesign_eq, spoilt?_of_held hheld, hheld]
      rfl
    have hown : f.readOwn d.id = .ok (some d) := by
      rw [readOwn, htext]
      exact hread
    exact get?_of_readOwn hvalid hown

/-- A list without what is no batch, from a folder with a text that is no JSON and with an object. -/
theorem tile_listed_beside_unreadable_files :
    let f : Folder := ⟨some [("broken.a2ui.json", "\x7bnope"),
      ("object.a2ui.json", "\x7b\"createSurface\": \x7b\x7d\x7d"), ("notes.txt", "ignored"),
      ("tile.a2ui.json", "[\x7b\"createSurface\": \x7b\"surfaceId\": \"tile\"\x7d\x7d]")]⟩
    let tile : Design := ⟨"tile", [[("createSurface", .obj [("surfaceId", .str "tile")])]]⟩
    (∀ e ∈ f.files, (stem? e.1).isSome = true → spoilt? e.2 = none) ∧ f.list = .ok [tile] ∧
      Design.isValidId "tile" = true ∧ f.get? (.str "tile") = .ok (some tile) := by
  intro f tile
  have hsound : ∀ e ∈ f.files, (stem? e.1).isSome = true → spoilt? e.2 = none := by decide +kernel
  have hheld : held? "tile" "[\x7b\"createSurface\": \x7b\"surfaceId\": \"tile\"\x7d\x7d]" =
      some tile := by decide +kernel
  have hall : (f.files.filterMap fun e => (stem? e.1).bind fun stem => held? stem e.2) = [tile] := by
    decide +kernel
  have hvalid : Design.isValidId "tile" = true := by decide +kernel
  obtain ⟨hlistable, -, hlisted, hfound⟩ := f.lists_all_unless_one_spoils
  obtain ⟨designs, hdesigns⟩ := hlistable.mpr hsound
  obtain rfl : designs = [tile] := List.perm_singleton.mp (hall ▸ (hlisted designs hdesigns).1)
  exact ⟨hsound, hdesigns, hvalid, hfound "tile" _ tile hvalid rfl hheld rfl⟩

/-- A tile is not listed, nor is anything else, beside a file that is an array of a number. -/
theorem tile_hidden_by_another_file :
    let f : Folder := ⟨some [("broken.a2ui.json", "[1]"),
      ("tile.a2ui.json", "[\x7b\"createSurface\": \x7b\"surfaceId\": \"tile\"\x7d\x7d]")]⟩
    held? "tile" "[\x7b\"createSurface\": \x7b\"surfaceId\": \"tile\"\x7d\x7d]" =
        some ⟨"tile", [[("createSurface", .obj [("surfaceId", .str "tile")])]]⟩ ∧
      f.list = .error .notMessages := by
  intro f
  have hbroken : spoilt? "[1]" = some .notMessages := by decide +kernel
  refine ⟨by decide +kernel, ?_⟩
  cases hresult : f.list with
  | ok designs =>
    have hsound := (designs_of_list hresult).2 ("broken.a2ui.json", "[1]") (by simp [f, files])
      (by decide +kernel)
    rw [hbroken] at hsound
    cases hsound
  | error fault =>
    obtain ⟨e, he, -, hspoilt⟩ := exists_spoilt_of_list hresult
    simp only [f, files, Option.getD_some, List.mem_cons, List.not_mem_nil, or_false] at he
    rcases he with rfl | rfl
    · exact congrArg Except.error (Option.some.inj (hspoilt.symm.trans hbroken))
    · have hsound : spoilt?
          "[\x7b\"createSurface\": \x7b\"surfaceId\": \"tile\"\x7d\x7d]" = none := by decide +kernel
      rw [hsound] at hspoilt
      cases hspoilt

end Folder

end UiSurface
