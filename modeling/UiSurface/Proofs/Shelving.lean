import UiSurface.Proofs.Saving

/-!
# A folder answers as a shelf does

A shelf is a record of designs.  A folder knows a design twice, by the name of its file and by the id in
the text, looks through all files if need be, and sorts by name before it sorts by id.  Nobody can tell
one from the other: whatever either is asked, beginning with nothing, it gives the same replies.

A shelf that holds what storage keeps goes along with it, wish by wish.

Main lemmas: `Storage.Keeps.grant` (one wish), `Storage.Keeps.replies` (many),
`Storage.folder_answers_as_shelf`.
-/

namespace UiSurface

namespace Storage

/-! ## Wishes -/

/-- What storage is asked for. -/
inductive Wish where
  /-- to keep a batch, under the id of the first surface that it creates -/
  | put (messages : List (Record Json))
  | get (id : String)
  | delete (id : String)
  | list
deriving DecidableEq

/-- What storage replies. -/
inductive Reply where
  | kept (result : Except StorageFault Design)
  | found (result : Except StorageFault (Option Design))
  | dropped (there : Bool)
  | listed (result : Except StorageFault (List Design))

/-- Why a wish was not granted. -/
def Reply.fault? : Reply → Option StorageFault
  | kept (.error fault) | found (.error fault) | listed (.error fault) => some fault
  | kept (.ok _) | found (.ok _) | listed (.ok _) | dropped _ => none

/-- Grants a wish. -/
def grant (s : Storage) : Wish → Storage × Reply
  | .put messages =>
    let (s, result) := s.put (Design.idOf (messages.map .obj) "") (.arr (messages.map .obj))
    (s, .kept result)
  | .get id => (s, .found (s.get? id))
  | .delete id =>
    let (s, there) := s.delete id
    (s, .dropped there)
  | .list => (s, .listed s.list)

def replies (s : Storage) : List Wish → List Reply
  | [] => []
  | w :: ws => (s.grant w).2 :: (s.grant w).1.replies ws

/-- A batch that can be kept: the first surface that it creates has an id that may name a file, and it
is read again from the text that it is written as. -/
structure Wish.Shelvable (messages : List (Record Json)) : Prop where
  named : ∃ e ∈ (Design.createdSurfaces (messages.map .obj)).head?, Design.isValidId e.2 = true
  legible : Json.ofText (Json.arr (messages.map .obj)).toLines = .ok (.arr (messages.map .obj))

theorem Wish.Shelvable.keepable {messages : List (Record Json)} (h : Shelvable messages) :
    (⟨Design.idOf (messages.map .obj) "", messages⟩ : Design).Keepable := by
  obtain ⟨⟨index, id⟩, hfirst, hvalid⟩ := h.named
  obtain ⟨rest, hcreated⟩ := List.head?_eq_some_iff.mp hfirst
  have hid := Design.idOf_of_createdSurfaces hcreated
  refine ⟨?_, fun fallback => ?_⟩
  · show Design.isValidId (Design.idOf _ "") = true
    rw [hid, hvalid]
  · show Design.idOf _ fallback = Design.idOf _ ""
    rw [hid, hid]

/-! ## One after the other -/

section Keeps

variable {s : Storage} {r : Record Design}

/-- Storage grants a wish as a shelf that holds what it keeps, and then there is such a shelf again. -/
theorem Keeps.grant (h : s.Keeps r) {w : Wish}
    (hw : ∀ messages, w = .put messages → Wish.Shelvable messages) :
    ∃ next, (shelf r).grant w = (shelf next, (s.grant w).2) ∧ (s.grant w).1.Keeps next ∧
      (s.grant w).2.fault? = none := by
  -- one case for each wish; both storages keep the same record
  cases w with
  | put messages =>
    have hshelvable := hw messages rfl
    have hd := hshelvable.keepable
    obtain ⟨hkeeps, -⟩ := h.keep hd fun _ => hshelvable.legible
    have hput := fun t : Storage => t.put_of_keepable hd
    simp only [Design.batch] at hput
    simp only [Storage.grant, hput]
    exact ⟨_, rfl, hkeeps, rfl⟩
  | get id =>
    simp only [Storage.grant, h.get? id]
    exact ⟨r, rfl, h, rfl⟩
  | delete id =>
    obtain ⟨hfound, hkeeps, -⟩ := h.delete id
    simp only [Storage.grant, hfound]
    exact ⟨_, rfl, hkeeps, rfl⟩
  | list =>
    simp only [Storage.grant, h.list]
    exact ⟨r, rfl, h, rfl⟩

/-- So it is with wishes, one after the other. -/
theorem Keeps.replies (h : s.Keeps r) {wishes : List Wish}
    (hwishes : ∀ messages, .put messages ∈ wishes → Wish.Shelvable messages) :
    s.replies wishes = (shelf r).replies wishes ∧
      ∀ reply ∈ s.replies wishes, reply.fault? = none := by
  induction wishes generalizing s r with
  | nil => exact ⟨rfl, nofun⟩
  | cons w ws ih =>
    have hfirst : ∀ messages, w = .put messages → Wish.Shelvable messages :=
      fun messages hput => hwishes messages (hput ▸ List.mem_cons_self)
    obtain ⟨next, hgrant, hkeeps, hfault⟩ := h.grant hfirst
    obtain ⟨hsame, hfaults⟩ := ih hkeeps fun messages hput =>
      hwishes messages (List.mem_cons_of_mem w hput)
    refine ⟨?_, List.forall_mem_cons.mpr ⟨hfault, hfaults⟩⟩
    simp only [Storage.replies, hgrant, hsame]

end Keeps

/-- A folder answers as a shelf does.  Both begin with nothing in them, and they are asked to keep
batches, to find designs, to drop them and to list them all, any ids whatever, in any order.  If each
batch names its surface by an id that may name a file, and is read again from its text, then both give
the same replies, one by one, and none of them is a fault. -/
theorem folder_answers_as_shelf {f : Folder} (hf : f.files = []) {wishes : List Wish}
    (hwishes : ∀ messages, .put messages ∈ wishes → Wish.Shelvable messages) :
    (folder f).replies wishes = (shelf []).replies wishes ∧
      ∀ reply ∈ (folder f).replies wishes, reply.fault? = none := by
  have hempty : (folder f).IsEmpty := hf
  exact hempty.keeps.replies hwishes

/-- A tile is put, found, and dropped once.  What may name no file is neither found nor dropped. -/
theorem tile_goes_in_and_out_of_folder :
    let messages : List (Record Json) := [[("createSurface", .obj [("surfaceId", .str "tile")])]]
    let wishes : List Wish := [.put messages, .get "tile", .get "a/b", .list, .delete "../tile",
      .delete "tile", .delete "tile", .list]
    (∀ batch, .put batch ∈ wishes → Wish.Shelvable batch) ∧
      (folder Folder.empty).replies wishes = [.kept (.ok ⟨"tile", messages⟩),
        .found (.ok (some ⟨"tile", messages⟩)), .found (.ok none), .listed (.ok [⟨"tile", messages⟩]),
        .dropped false, .dropped true, .dropped false, .listed (.ok [])] := by
  intro messages wishes
  have hread : Json.ofText (Json.arr (messages.map .obj)).toLines = .ok (.arr (messages.map .obj)) := by
    rw [← Fallible.toOption_eq_some_iff, Json.ofText]
    -- the text is taken apart before it is read, for joining it is slow
    simp only [messages, List.map_cons, List.map_nil, Json.toLines, Json.toLinesAt, Json.itemLines,
      Json.memberLines, Json.enclose, Json.newLine, Json.toText, Json.quoted, List.isEmpty_cons,
      Bool.false_eq_true, if_false, String.intercalate_singleton,
      String.toList_append, String.toList_ofList]
    decide +kernel
  have hshelvable : ∀ batch, .put batch ∈ wishes → Wish.Shelvable batch := by
    intro batch hbatch
    obtain rfl : batch = messages := by simpa [wishes] using hbatch
    exact ⟨⟨(0, "tile"), by decide +kernel, by decide +kernel⟩, hread⟩
  obtain ⟨hsame, -⟩ := folder_answers_as_shelf (f := Folder.empty) rfl hshelvable
  have hid : Design.idOf (messages.map .obj) "" = "tile" := by decide +kernel
  refine ⟨hshelvable, hsame.trans ?_⟩
  simp [wishes, replies, grant, put, hid, Shelf.put, Design.ofBatch, Design.messagesOf?_objects, get?,
    delete, Shelf.delete, list, Shelf.list, Design.sort, Record.put, Record.get?, Record.has,
    Record.erase, Record.values]

end Storage

end UiSurface
