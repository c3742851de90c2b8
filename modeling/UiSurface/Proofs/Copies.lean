import UiSurface.Proofs.Keeping

/-!
# Folders that others have been in

A file may have come into a folder by any way: under another name than the id in its text, a second time,
or with an id that may name no file.  The list has whatever is in the files.  To find and to drop a design
an id is needed that may name a file; any other is not found, though the list may have it.  With such an
id a design is found exactly if the list has it, whatever the name of its file; and where the file that
is named for an id is the one that holds its design, dropping agrees with both.

Main lemmas: `Readable.list` (what is in the list), `Readable.get?` (what is found),
`holdsAt_delete_iff` (what stays), `Folder.list_get_delete_agree`.
-/

namespace UiSurface

namespace Folder

/-! ## What the files hold -/

/-- A folder whose design files hold an array of objects each. -/
def Readable (f : Folder) : Prop :=
  ∀ e ∈ f.files, (stem? e.1).isSome = true →
    ∃ messages : List (Record Json), Json.ofText e.2 = .ok (.arr (messages.map .obj))

/-- The file of a name holds a design. -/
def HoldsAt (f : Folder) (name : String) (d : Design) : Prop :=
  ∃ stem text, (name, text) ∈ f.files ∧ stem? name = some stem ∧ readDesign stem text = .ok (some d)

/-- The file that is named for an id, if there is one, holds its design, and no other file does. -/
def NamedFor (f : Folder) (id : String) : Prop :=
  ∀ name d, f.HoldsAt name d → (d.id = id ↔ name = fileName id)

/-- The design files are the files with the ending of such. -/
theorem mem_designFiles {f : Folder} {stem text : String} :
    (stem, text) ∈ f.designFiles ↔ ∃ name, (name, text) ∈ f.files ∧ stem? name = some stem := by
  simp only [designFiles, List.mem_filterMap, List.mem_mergeSort, Option.map_eq_some_iff,
    Prod.mk.injEq, Prod.exists]
  constructor
  · rintro ⟨name, text', hmem, stem', hstem, rfl, rfl⟩
    exact ⟨name, hmem, hstem⟩
  · rintro ⟨name, hmem, hstem⟩
    exact ⟨name, text, hmem, stem, hstem, rfl, rfl⟩

variable {f : Folder}

/-- A file that holds an array of objects holds a design. -/
theorem readDesign_of_objects {text : String} {messages : List (Record Json)}
    (h : Json.ofText text = .ok (.arr (messages.map .obj))) (stem : String) :
    readDesign stem text = .ok (some ⟨Design.idOf (messages.map .obj) stem, messages⟩) := by
  rw [readDesign, h]
  simp only [Design.ofBatch, Design.messagesOf?_objects]
  rfl

/-- In a readable folder every design file holds a design. -/
theorem Readable.exists_readDesign (h : f.Readable) {name stem text : String}
    (hmem : (name, text) ∈ f.files) (hstem : stem? name = some stem) :
    ∃ d, readDesign stem text = .ok (some d) := by
  obtain ⟨messages, hmessages⟩ := h _ hmem (by rw [hstem]; rfl)
  exact ⟨_, readDesign_of_objects hmessages stem⟩

/-- The list has the designs that the files hold. -/
theorem Readable.list (h : f.Readable) :
    ∃ designs, f.list = .ok designs ∧ ∀ d, d ∈ designs ↔ ∃ name, f.HoldsAt name d := by
  -- every file can be read, so the listing does not fail
  have hread : ∀ e ∈ f.designFiles, ∃ found, readDesign e.1 e.2 = .ok found := by
    rintro ⟨stem, text⟩ he
    obtain ⟨name, hmem, hstem⟩ := mem_designFiles.mp he
    obtain ⟨d, hd⟩ := h.exists_readDesign hmem hstem
    exact ⟨some d, hd⟩
  obtain ⟨found, hfound⟩ := Fallible.exists_map_eq_map_ok_iff.mpr hread
  have hmem : ∀ d, some d ∈ found ↔ ∃ e ∈ f.designFiles, readDesign e.1 e.2 = .ok (some d) := by
    intro d
    have hok : some d ∈ found ↔ Except.ok (some d) ∈ f.designFiles.map fun e => readDesign e.1 e.2 := by
      rw [hfound]
      simp
    rw [hok, List.mem_map]
  refine ⟨Design.sort (found.filterMap id), by rw [Folder.list, Fallible.mapM_eq_ok hfound]; rfl,
    fun d => ?_⟩
  rw [Design.mem_sort, List.mem_filterMap]
  constructor
  · rintro ⟨o, ho, rfl : o = some d⟩
    obtain ⟨⟨stem, text⟩, he, hd⟩ := (hmem d).mp ho
    obtain ⟨name, hname, hstem⟩ := mem_designFiles.mp he
    exact ⟨name, stem, text, hname, hstem, hd⟩
  · rintro ⟨name, stem, text, hname, hstem, hd⟩
    have he := mem_designFiles.mpr ⟨name, hname, hstem⟩
    exact ⟨some d, (hmem d).mpr ⟨(stem, text), he, hd⟩, rfl⟩

/-! ## Finding -/

/-- Under an id that may name a file a design of the list is found, if there is one. -/
theorem Readable.get? (h : f.Readable) {id : String} (hvalid : Design.isValidId id = true) :
    ∃ found, f.get? (.str id) = .ok found ∧
      (∀ d, found = some d → d.id = id ∧ ∃ name, f.HoldsAt name d) ∧
      (found = none → ∀ name d, f.HoldsAt name d → d.id ≠ id) := by
  have hvalid? := Design.validId?_of_valid hvalid
  obtain ⟨designs, hlist, hmem⟩ := h.list
  -- the file that is named for the id holds a design, though it may be that of another id
  obtain ⟨own, hown, hheld⟩ : ∃ own, f.readOwn id = .ok own ∧
      ∀ d, own = some d → ∃ name, f.HoldsAt name d := by
    unfold readOwn
    cases htext : f.text? (fileName id) with
    | none => exact ⟨none, rfl, by simp⟩
    | some text =>
      have hfile := Record.mem_of_get?_eq_some htext
      obtain ⟨d, hd⟩ := h.exists_readDesign hfile (stem?_fileName id)
      refine ⟨some d, hd, fun e he => ?_⟩
      obtain rfl := Option.some.inj he
      exact ⟨fileName id, id, text, hfile, stem?_fileName id, hd⟩
  have hget : f.get? (.str id) = .ok ((own.filter fun d => d.id == id).or
      (designs.find? fun d => d.id == id)) := by
    simp only [Folder.get?, hvalid?, hown, hlist]
    cases hfilter : own.filter fun d => d.id == id with
    | none => simp [bind, Except.bind, pure, Except.pure, hfilter]
    | some d => simp [bind, Except.bind, pure, Except.pure, hfilter]
  refine ⟨_, hget, fun d hd => ?_, fun hnone name d hd => ?_⟩
  · rcases Option.or_eq_some_iff.mp hd with hfirst | ⟨-, hlater⟩
    · obtain ⟨hmine, hid⟩ := Option.filter_eq_some_iff.mp hfirst
      exact ⟨beq_iff_eq.mp hid, hheld d hmine⟩
    · exact ⟨beq_iff_eq.mp (List.find?_some hlater :), (hmem d).mp (List.mem_of_find?_eq_some hlater)⟩
  · obtain ⟨-, hfind⟩ := Option.or_eq_none_iff.mp hnone
    have hne := List.find?_eq_none.mp hfind d ((hmem d).mpr ⟨name, hd⟩)
    exact fun hid => hne (beq_iff_eq.mpr hid)

/-! ## Dropping -/

/-- What is dropped is what the file that is named for the id holds. -/
theorem holdsAt_delete_iff {id : String} (hvalid : Design.isValidId id = true) {name : String}
    {d : Design} : (f.delete (.str id)).1.HoldsAt name d ↔ f.HoldsAt name d ∧ name ≠ fileName id := by
  have hfile : ∀ text, (name, text) ∈ (f.delete (.str id)).1.files ↔
      (name, text) ∈ f.files ∧ name ≠ fileName id := by
    intro text
    rw [(f.delete_of_valid hvalid).1, Record.erase, List.mem_filter, bne_iff_ne]
  constructor
  · rintro ⟨stem, text, hmem, hstem, hd⟩
    obtain ⟨hold, hne⟩ := (hfile text).mp hmem
    exact ⟨⟨stem, text, hold, hstem, hd⟩, hne⟩
  · rintro ⟨⟨stem, text, hmem, hstem, hd⟩, hne⟩
    exact ⟨stem, text, (hfile text).mpr ⟨hmem, hne⟩, hstem, hd⟩

/-- Deleting leaves a folder readable. -/
theorem Readable.delete (h : f.Readable) {id : String} (hvalid : Design.isValidId id = true) :
    (f.delete (.str id)).1.Readable := by
  intro e he
  rw [(f.delete_of_valid hvalid).1] at he
  exact h e (List.mem_filter.mp he).1

/-- A file is dropped exactly if there is one that is named for the id; and then it holds a design. -/
theorem Readable.found_delete_iff (h : f.Readable) {id : String} (hvalid : Design.isValidId id = true) :
    (f.delete (.str id)).2 = true ↔ ∃ d, f.HoldsAt (fileName id) d := by
  rw [(f.delete_of_valid hvalid).2, Record.has_iff_mem_keys]
  constructor
  · intro hkey
    obtain ⟨⟨name, text⟩, hmem, rfl : name = fileName id⟩ := List.mem_map.mp hkey
    obtain ⟨d, hd⟩ := h.exists_readDesign hmem (stem?_fileName id)
    exact ⟨d, id, text, hmem, stem?_fileName id, hd⟩
  · rintro ⟨d, stem, text, hmem, -⟩
    exact Record.mem_keys_of_mem hmem

/-! ## All three -/

/-- Listing, finding and dropping agree.  In a folder whose design files hold an array of objects each,
whatever their names, all designs can be listed.  An id that may name no file is not found, and nothing is
dropped under it.  Under any other a design is found, one of this id, exactly if the list has one.  And
where the file that is named for the id is the one that holds its design, the list has one exactly if one
can be dropped, and then none is found any more. -/
theorem list_get_delete_agree (hf : f.Readable) :
    ∃ designs, f.list = .ok designs ∧
      (∀ id, Design.isValidId id = false →
        f.get? (.str id) = .ok none ∧ f.delete (.str id) = (f, false)) ∧
      (∀ id, Design.isValidId id = true → ∃ found, f.get? (.str id) = .ok found ∧
        (found.isSome = true ↔ ∃ d ∈ designs, d.id = id) ∧ ∀ d ∈ found, d ∈ designs ∧ d.id = id) ∧
      ∀ id, Design.isValidId id = true → f.NamedFor id →
        ((f.delete (.str id)).2 = true ↔ ∃ d ∈ designs, d.id = id) ∧
        (f.delete (.str id)).1.get? (.str id) = .ok none := by
  obtain ⟨designs, hlist, hmem⟩ := hf.list
  refine ⟨designs, hlist, fun id hvalid => ⟨f.get?_of_invalid hvalid, f.delete_of_invalid hvalid⟩,
    fun id hvalid => ?_, fun id hvalid hnamed => ⟨?_, ?_⟩⟩
  · obtain ⟨found, hget, hsome, hnone⟩ := hf.get? hvalid
    have hfound : ∀ d, found = some d → d ∈ designs ∧ d.id = id := by
      intro d hd
      obtain ⟨hid, hheld⟩ := hsome d hd
      exact ⟨(hmem d).mpr hheld, hid⟩
    refine ⟨found, hget, ⟨fun hthere => ?_, fun hlisted => ?_⟩, hfound⟩
    · obtain ⟨d, hd⟩ := Option.isSome_iff_exists.mp hthere
      exact ⟨d, hfound d hd⟩
    · obtain ⟨d, hd, hid⟩ := hlisted
      obtain ⟨name, hheld⟩ := (hmem d).mp hd
      cases found with
      | some _ => rfl
      | none => exact absurd hid (hnone rfl name d hheld)
  · rw [hf.found_delete_iff hvalid]
    constructor
    · rintro ⟨d, hd⟩
      exact ⟨d, (hmem d).mpr ⟨_, hd⟩, (hnamed _ d hd).mpr rfl⟩
    · rintro ⟨d, hd, hid⟩
      obtain ⟨name, hheld⟩ := (hmem d).mp hd
      obtain rfl := (hnamed name d hheld).mp hid
      exact ⟨d, hheld⟩
  · obtain ⟨found, hget, hsome, -⟩ := (hf.delete hvalid).get? hvalid
    cases found with
    | none => exact hget
    | some d =>
      obtain ⟨hid, name, hheld⟩ := hsome d rfl
      -- a design of this name would lie in the file that has been deleted
      obtain ⟨hold, hne⟩ := (holdsAt_delete_iff hvalid).mp hheld
      exact absurd ((hnamed name d hold).mp hid) hne

/-- A tile is in the file that is named for it, and another file has an id that may name none. -/
theorem tile_agrees_beside_unnameable_id :
    let f : Folder := ⟨some [
      ("tile.a2ui.json", "[\x7b\"createSurface\": \x7b\"surfaceId\": \"tile\"\x7d\x7d]"),
      ("x.a2ui.json", "[\x7b\"createSurface\": \x7b\"surfaceId\": \"a/b\"\x7d\x7d]")]⟩
    f.Readable ∧ Design.isValidId "a/b" = false ∧ f.get? (.str "a/b") = .ok none ∧
      Design.isValidId "tile" = true ∧ f.NamedFor "tile" ∧ (f.delete (.str "tile")).2 = true ∧
      (f.delete (.str "tile")).1.get? (.str "tile") = .ok none := by
  intro f
  let messages (id : String) : List (Record Json) :=
    [[("createSurface", .obj [("surfaceId", .str id)])]]
  have htile : Json.ofText "[\x7b\"createSurface\": \x7b\"surfaceId\": \"tile\"\x7d\x7d]" =
      .ok (.arr ((messages "tile").map .obj)) := by
    rw [← Fallible.toOption_eq_some_iff]
    decide +kernel
  have hother : Json.ofText "[\x7b\"createSurface\": \x7b\"surfaceId\": \"a/b\"\x7d\x7d]" =
      .ok (.arr ((messages "a/b").map .obj)) := by
    rw [← Fallible.toOption_eq_some_iff]
    decide +kernel
  have hreadable : f.Readable := by
    intro e he _
    simp only [f, files, Option.getD_some, List.mem_cons, List.not_mem_nil, or_false] at he
    rcases he with rfl | rfl
    · exact ⟨_, htile⟩
    · exact ⟨_, hother⟩
  have hnamed : f.NamedFor "tile" := by
    rintro name d ⟨stem, text, hmem, -, hd⟩
    simp only [f, files, Option.getD_some, List.mem_cons, Prod.mk.injEq, List.not_mem_nil,
      or_false] at hmem
    rcases hmem with ⟨rfl, rfl⟩ | ⟨rfl, rfl⟩
    · rw [readDesign_of_objects htile] at hd
      cases hd
      exact iff_of_true rfl rfl
    · rw [readDesign_of_objects hother] at hd
      cases hd
      have hid : ("a/b" : String) ≠ "tile" := by decide
      exact iff_of_false hid (by decide)
  have hvalid : Design.isValidId "tile" = true := by decide +kernel
  have hinvalid : Design.isValidId "a/b" = false := by decide +kernel
  obtain ⟨designs, -, hrefused, -, hagree⟩ := list_get_delete_agree hreadable
  obtain ⟨-, hgone⟩ := hagree "tile" hvalid hnamed
  exact ⟨hreadable, hinvalid, (hrefused "a/b" hinvalid).1, hvalid, hnamed, by decide +kernel, hgone⟩

/-- The list may have an id that is not found. -/
theorem listed_id_not_found :
    let f : Folder := ⟨some [("x.a2ui.json",
      "[\x7b\"createSurface\": \x7b\"surfaceId\": \"a/b\"\x7d\x7d]")]⟩
    f.Readable ∧ (∃ designs, f.list = .ok designs ∧ ∃ d ∈ designs, d.id = "a/b") ∧
      f.get? (.str "a/b") = .ok none := by
  intro f
  have hread : Json.ofText "[\x7b\"createSurface\": \x7b\"surfaceId\": \"a/b\"\x7d\x7d]" =
      .ok (.arr ([[("createSurface", .obj [("surfaceId", .str "a/b")])]].map .obj)) := by
    rw [← Fallible.toOption_eq_some_iff]
    decide +kernel
  have hreadable : f.Readable := by
    intro e he _
    obtain rfl := List.mem_singleton.mp he
    exact ⟨_, hread⟩
  obtain ⟨designs, hlist, hmem⟩ := hreadable.list
  have hheld : f.HoldsAt "x.a2ui.json"
      ⟨"a/b", [[("createSurface", .obj [("surfaceId", .str "a/b")])]]⟩ :=
    ⟨"x", _, List.mem_singleton.mpr rfl, by decide +kernel, readDesign_of_objects hread "x"⟩
  exact ⟨hreadable, ⟨designs, hlist, _, (hmem _).mpr ⟨_, hheld⟩, rfl⟩,
    f.get?_of_invalid (by decide +kernel)⟩

end Folder

end UiSurface
