import UiSurface.Design.Storage
import UiSurface.Proofs.Decoding
import UiSurface.Proofs.Records

/-!
# What storage keeps

Both kinds of storage stand for one thing: a record of designs, each under its id.  A shelf is that
record; a folder has a file for each design, named for its id, with the text of its batch.  `Keeps` says
so, and that a design in the record can be kept: its id may name a file and is the one that its batch
says, and a folder reads again what it wrote.  What storage answers then follows from the record alone.

Main lemmas: `Storage.put_of_keepable` (what it is to be given a design), `Keeps.get?`, `Keeps.list`,
`Keeps.keep`, `Keeps.delete` (each is what the record does).
-/

namespace UiSurface

/-! ## Lists of designs -/

namespace Design

theorem sort_perm (ds : List Design) : (sort ds).Perm ds := List.mergeSort_perm _ _

theorem mem_sort {ds : List Design} {d : Design} : d ∈ sort ds ↔ d ∈ ds := (sort_perm ds).mem_iff

/-- Sorted designs are in the order of their ids. -/
theorem pairwise_sort (ds : List Design) :
    (sort ds).Pairwise fun d e => Text.precedes d.id e.id = true := by
  apply List.pairwise_mergeSort
  · intro a b c hab hbc
    exact Text.precedes_trans hab hbc
  · intro a b
    exact Text.precedes_total a.id b.id

/-- Where no two designs have the same id, their order before sorting plays no part. -/
theorem sort_eq_of_perm {ds es : List Design} (h : ds.Perm es)
    (hid : ∀ d ∈ ds, ∀ e ∈ ds, d.id = e.id → d = e) : sort ds = sort es := by
  refine List.Perm.eq_of_pairwise (fun d e hd he hle hge => ?_) (pairwise_sort ds) (pairwise_sort es)
    ((sort_perm ds).trans (h.trans (sort_perm es).symm))
  exact hid d (mem_sort.mp hd) e (h.mem_iff.mpr (mem_sort.mp he)) (Text.precedes_antisymm hle hge)

/-- A design whose id may name a file and is the one that its batch says. -/
structure Keepable (d : Design) : Prop where
  valid : isValidId d.id = true
  named : ∀ fallback, idOf (d.messages.map .obj) fallback = d.id

theorem validId?_of_valid {id : String} (h : isValidId id = true) : validId? (.str id) = some id :=
  if_pos h

theorem validId?_of_invalid {id : String} (h : isValidId id = false) : validId? (.str id) = none :=
  if_neg (Bool.eq_false_iff.mp h)

/-- A design whose batch is read again from the text that it is written as. -/
def Legible (d : Design) : Prop := Json.ofText d.batch.toLines = .ok d.batch

end Design

/-! ## Files -/

namespace Folder

/-- Each id has a file of its own. -/
theorem fileName_injective (a b : String) (h : fileName a = fileName b) : a = b := by
  have htexts := congrArg String.toList h
  simp only [fileName, String.toList_append, List.append_cancel_right_eq] at htexts
  exact String.toList_inj.mp htexts

/-- The file of an id is the file of that id. -/
theorem stem?_fileName (id : String) : stem? (fileName id) = some id := by
  simp [stem?, fileName, String.toList_append]

/-- Under an id that may name no file nothing is found. -/
theorem get?_of_invalid (f : Folder) {id : String} (h : Design.isValidId id = false) :
    f.get? (.str id) = .ok none := by simp only [get?, Design.validId?_of_invalid h]

/-- Nor is anything dropped under it. -/
theorem delete_of_invalid (f : Folder) {id : String} (h : Design.isValidId id = false) :
    f.delete (.str id) = (f, false) := by simp only [delete, Design.validId?_of_invalid h]

/-- Under any other the file that is named for it is dropped. -/
theorem delete_of_valid (f : Folder) {id : String} (h : Design.isValidId id = true) :
    (f.delete (.str id)).1.files = Record.erase f.files (fileName id) ∧
      (f.delete (.str id)).2 = Record.has f.files (fileName id) := by
  simp only [delete, Design.validId?_of_valid h]
  cases hthere : Record.has f.files (fileName id) with
  | true => exact ⟨rfl, rfl⟩
  | false =>
    have habsent : fileName id ∉ Record.keys f.files := by
      rw [← Record.has_iff_mem_keys, hthere]
      exact Bool.false_ne_true
    exact ⟨(Record.erase_of_not_mem habsent).symm, rfl⟩

/-- The files of designs. -/
def filesOf (r : Record Design) : Record String :=
  Record.rename fileName (fun d => d.batch.toLines) r

/-- A design that can be read again is read from its own text. -/
theorem readDesign_of_legible {d : Design} (hd : d.Keepable) (hlegible : d.Legible)
    (fallback : String) : readDesign fallback d.batch.toLines = .ok (some d) := by
  rw [readDesign, hlegible]
  simp only [Design.batch, Design.ofBatch, Design.messagesOf?_objects, hd.named]
  rfl

/-- A design that is in the file of its id is found, whatever other files there are. -/
theorem get?_of_readOwn {f : Folder} {d : Design} (hvalid : Design.isValidId d.id = true)
    (hown : f.readOwn d.id = .ok (some d)) : f.get? (.str d.id) = .ok (some d) := by
  simp only [get?, Design.validId?_of_valid hvalid, hown]
  simp [bind, Except.bind, Option.filter, pure, Except.pure]

/-- A design that was written to its own file is found. -/
theorem get?_of_text {f : Folder} {d : Design} (hd : d.Keepable) (hlegible : d.Legible)
    (htext : f.text? (fileName d.id) = some d.batch.toLines) : f.get? (.str d.id) = .ok (some d) := by
  have hown : f.readOwn d.id = .ok (some d) := by
    simp only [readOwn, htext]
    exact readDesign_of_legible hd hlegible d.id
  exact get?_of_readOwn hd.valid hown

/-- A design that can be kept is written to its own file. -/
theorem put_of_keepable (f : Folder) {d : Design} (hd : d.Keepable) :
    f.put (.str d.id) d.batch = (f.write (fileName d.id) d.batch.toLines, .ok d) := by
  have hbatch : Design.ofBatch d.id d.batch = .ok d := by
    simp only [Design.ofBatch, Design.batch, Design.messagesOf?_objects]
  simp only [put, Design.validId?_of_valid hd.valid, writtenDesign, hbatch]
  rfl

/-- All files are read again. -/
theorem mapM_readDesign {r : Record Design} (h : ∀ e ∈ r, e.2.Keepable ∧ e.2.Legible) :
    (r.map fun e => (e.1, e.2.batch.toLines)).mapM (fun e => readDesign e.1 e.2) =
      .ok (r.map fun e => some e.2) := by
  refine Fallible.mapM_eq_ok ?_
  rw [List.map_map, List.map_map]
  exact List.map_congr_left fun e he => readDesign_of_legible (h e he).1 (h e he).2 e.1

end Folder

/-! ## Storage -/

namespace Storage

def isFolder : Storage → Bool
  | shelf _ => false
  | folder _ => true

/-- Storage with one design more, under its id: on a shelf the design itself, in a folder the file of the
id with the text of the batch. -/
def keep : Storage → Design → Storage
  | shelf s, d => shelf (Record.put s d.id d)
  | folder f, d => folder (f.write (Folder.fileName d.id) d.batch.toLines)

/-- Storage that is given a design that can be kept keeps it. -/
theorem put_of_keepable (s : Storage) {d : Design} (hd : d.Keepable) :
    s.put d.id d.batch = (s.keep d, .ok d) := by
  cases s with
  | shelf shelf =>
    have hput : Shelf.put shelf d.id d.batch = (Record.put shelf d.id d, .ok d) := by
      simp only [Shelf.put, Design.ofBatch, Design.batch, Design.messagesOf?_objects]
    simp only [put, hput, keep]
  | folder f => simp only [put, f.put_of_keepable hd, keep]

/-- What storage holds where it keeps a record of designs. -/
def Holds : Storage → Record Design → Prop
  | shelf s, r => s = r
  | folder f, r => f.files = Folder.filesOf r ∧ ∀ e ∈ r, e.2.Legible

/-- Storage that keeps a record of designs, each under its id. -/
structure Keeps (s : Storage) (r : Record Design) : Prop where
  nodup : (Record.keys r).Nodup
  keyed : ∀ e ∈ r, e.2.id = e.1
  keepable : ∀ e ∈ r, e.2.Keepable
  holds : s.Holds r

section Keeps

variable {s : Storage} {r : Record Design}

/-- A design is found under its own id. -/
theorem Keeps.get?_id (h : s.Keeps r) {d : Design} (hd : d ∈ Record.values r) :
    Record.get? r d.id = some d := by
  obtain ⟨e, he, rfl⟩ := List.mem_map.mp hd
  rw [h.keyed e he]
  exact Record.get?_of_mem h.nodup he

/-- What is found under an id is a design of that id. -/
theorem Keeps.mem_values (h : s.Keeps r) {id : String} {d : Design}
    (hd : Record.get? r id = some d) : d ∈ Record.values r ∧ d.id = id := by
  have hmem := Record.mem_of_get?_eq_some hd
  exact ⟨List.mem_map_of_mem hmem, h.keyed _ hmem⟩

/-- All files of a folder are read, in the order of their names. -/
theorem list_of_files {f : Folder} (hfiles : f.files = Folder.filesOf r)
    (hread : ∀ e ∈ r, e.2.Keepable ∧ e.2.Legible) :
    ∃ sorted : Record Design, sorted.Perm r ∧
      f.list = .ok (Design.sort (Record.values sorted)) := by
  -- files are read in the order of their names, which is an order of the designs
  have hsorted : f.files.mergeSort (fun a b => decide (a.1 ≤ b.1)) = Folder.filesOf
      (r.mergeSort fun a b => decide (Folder.fileName a.1 ≤ Folder.fileName b.1)) := by
    rw [hfiles]
    exact (List.map_mergeSort (f := fun e : String × Design =>
      (Folder.fileName e.1, e.2.batch.toLines)) fun a _ b _ => rfl).symm
  generalize hr' : r.mergeSort (fun a b => decide (Folder.fileName a.1 ≤ Folder.fileName b.1)) = r'
    at hsorted
  have hperm : r'.Perm r := hr' ▸ List.mergeSort_perm _ _
  have hdesigns : f.designFiles = r'.map fun e => (e.1, e.2.batch.toLines) := by
    simp only [Folder.designFiles, hsorted, Folder.filesOf, Record.rename, List.filterMap_map,
      Function.comp_def, Folder.stem?_fileName, Option.map_some]
    exact congrFun List.filterMap_eq_map r'
  have hall := Folder.mapM_readDesign fun e he => hread e (hperm.mem_iff.mp he)
  refine ⟨r', hperm, ?_⟩
  rw [Folder.list, hdesigns, hall]
  simp [Except.map, List.filterMap_map, Record.values]

/-- Storage lists the designs of the record in the order of their ids. -/
theorem Keeps.list (h : s.Keeps r) : s.list = .ok (Design.sort (Record.values r)) := by
  cases s with
  | shelf shelf =>
    obtain rfl := h.holds
    rfl
  | folder f =>
    obtain ⟨hfiles, hlegible⟩ := h.holds
    obtain ⟨r', hperm, hlist⟩ := list_of_files hfiles fun e he => ⟨h.keepable e he, hlegible e he⟩
    have hvalues : (Record.values r').Perm (Record.values r) := hperm.map _
    show f.list = _
    rw [hlist]
    -- the listing is sorted by ids, which are different, so the order of the files is forgotten
    refine congrArg _ (Design.sort_eq_of_perm hvalues fun d hd e he hid => ?_)
    have hd' := h.get?_id (hvalues.mem_iff.mp hd)
    have he' := h.get?_id (hvalues.mem_iff.mp he)
    rw [hid, he'] at hd'
    exact (Option.some.inj hd').symm

/-- Nothing is kept under an id that may name no file. -/
theorem Keeps.get?_of_invalid (h : s.Keeps r) {id : String} (hvalid : Design.isValidId id = false) :
    Record.get? r id = none := by
  cases hget : Record.get? r id with
  | none => rfl
  | some d =>
    have hmem := Record.mem_of_get?_eq_some hget
    have hd := (h.keepable _ hmem).valid
    rw [h.keyed _ hmem, hvalid] at hd
    cases hd

/-- Storage finds under an id what the record has under it. -/
theorem Keeps.get? (h : s.Keeps r) (id : String) : s.get? id = .ok (Record.get? r id) := by
  cases s with
  | shelf shelf =>
    obtain rfl := h.holds
    rfl
  | folder f =>
    obtain ⟨hfiles, hlegible⟩ := h.holds
    show f.get? (.str id) = _
    cases hvalid : Design.isValidId id with
    | false => rw [f.get?_of_invalid hvalid, h.get?_of_invalid hvalid]
    | true =>
      have htext : f.text? (Folder.fileName id) =
          (Record.get? r id).map fun d => d.batch.toLines := by
        rw [Folder.text?, hfiles]
        exact Record.get?_rename Folder.fileName_injective _ r id
      cases hget : Record.get? r id with
      | some d =>
        have hmem := Record.mem_of_get?_eq_some hget
        have hkeepable := h.keepable (id, d) hmem
        have hread := hlegible (id, d) hmem
        obtain rfl : d.id = id := h.keyed (id, d) hmem
        exact Folder.get?_of_text hkeepable hread (by rw [htext, hget, Option.map_some])
      | none =>
        have hvalid? := Design.validId?_of_valid hvalid
        have hown : f.readOwn id = .ok none := by
          simp only [Folder.readOwn, htext, hget, Option.map_none]
        -- no file of another name holds it either
        have hlist : f.list = .ok (Design.sort (Record.values r)) := h.list
        have hfind : (Design.sort (Record.values r)).find? (fun d => d.id == id) = none := by
          rw [List.find?_eq_none]
          intro d hd hid
          have hd' := h.get?_id (Design.mem_sort.mp hd)
          rw [beq_iff_eq.mp hid, hget] at hd'
          cases hd'
        simp only [Folder.get?, hvalid?, hown, hlist]
        simp [bind, Except.bind, Option.filter, pure, Except.pure, hfind]

/-- With one design more, storage keeps a record with that design under its id. -/
theorem Keeps.keep (h : s.Keeps r) {d : Design} (hd : d.Keepable)
    (hfile : s.isFolder = true → d.Legible) :
    (s.keep d).Keeps (Record.put r d.id d) ∧ (s.keep d).isFolder = s.isFolder := by
  have hentries : ∀ P : String × Design → Prop, P (d.id, d) → (∀ e ∈ r, P e) →
      ∀ e ∈ Record.put r d.id d, P e := by
    intro P hnew hold e he
    rcases Record.mem_put he with rfl | hmem
    · exact hnew
    · exact hold e hmem
  have hkeeps : ∀ t : Storage, t.Holds (Record.put r d.id d) → t.Keeps (Record.put r d.id d) :=
    fun t ht => ⟨Record.nodup_keys_put r d.id d h.nodup,
      hentries (fun e => e.2.id = e.1) rfl h.keyed, hentries (fun e => e.2.Keepable) hd h.keepable, ht⟩
  -- the shelf holds the record as it is, the folder its designs written out
  cases s with
  | shelf shelf =>
    obtain rfl := h.holds
    exact ⟨hkeeps (.shelf _) rfl, rfl⟩
  | folder f =>
    obtain ⟨hfiles, hlegible⟩ := h.holds
    refine ⟨hkeeps (.folder _) ⟨?_, hentries (fun e => e.2.Legible) (hfile rfl) hlegible⟩, rfl⟩
    show Record.put f.files (Folder.fileName d.id) d.batch.toLines = _
    rw [hfiles]
    exact Record.put_rename Folder.fileName_injective (fun d => d.batch.toLines) r d.id d

/-- Storage drops from the record the design of an id, and says whether there was one. -/
theorem Keeps.delete (h : s.Keeps r) (id : String) : (s.delete id).2 = Record.has r id ∧
    (s.delete id).1.Keeps (Record.erase r id) ∧ (s.delete id).1.isFolder = s.isFolder := by
  have hentries : ∀ P : String × Design → Prop, (∀ e ∈ r, P e) → ∀ e ∈ Record.erase r id, P e :=
    fun P hold e he => hold e (List.mem_filter.mp he).1
  have hkeeps : ∀ t : Storage, t.Holds (Record.erase r id) → t.Keeps (Record.erase r id) :=
    fun t ht => ⟨Record.nodup_keys_erase r id h.nodup, hentries (fun e => e.2.id = e.1) h.keyed,
      hentries (fun e => e.2.Keepable) h.keepable, ht⟩
  cases s with
  | shelf shelf =>
    obtain rfl := h.holds
    exact ⟨rfl, hkeeps (.shelf _) rfl, rfl⟩
  | folder f =>
    obtain ⟨hfiles, hlegible⟩ := h.holds
    -- an id that names no file was never kept under
    cases hvalid : Design.isValidId id with
    | false =>
      have hnone := h.get?_of_invalid hvalid
      have hsame : Record.erase r id = r :=
        Record.erase_of_not_mem ((Record.get?_eq_none_iff r id).mp hnone)
      have hdelete : (folder f).delete id = (folder f, false) := by
        simp only [Storage.delete, f.delete_of_invalid hvalid]
      rw [hsame, hdelete]
      exact ⟨by simp [Record.has, hnone], h, rfl⟩
    | true =>
      obtain ⟨hrest, hfound⟩ := f.delete_of_valid hvalid
      have hget := Record.get?_rename Folder.fileName_injective (fun d => d.batch.toLines) r id
      rw [hfiles] at hrest hfound
      refine ⟨hfound.trans ?_, hkeeps (.folder _) ⟨hrest.trans ?_, ?_⟩, rfl⟩
      · simp [Record.has, Folder.filesOf, hget]
      · exact Record.erase_rename Folder.fileName_injective _ r id
      · exact hentries (fun e => e.2.Legible) hlegible

end Keeps

def IsEmpty : Storage → Prop
  | shelf s => s = []
  | folder f => f.files = []

/-- Storage that is empty keeps nothing. -/
theorem IsEmpty.keeps {s : Storage} (h : s.IsEmpty) : s.Keeps [] := by
  refine ⟨List.nodup_nil, nofun, nofun, ?_⟩
  cases s with
  | shelf shelf => exact h
  | folder f => exact ⟨h, nofun⟩

end Storage

end UiSurface
