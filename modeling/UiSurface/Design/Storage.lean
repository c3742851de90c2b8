import UiSurface.Design.Basic
import UiSurface.Json.Reader
import UiSurface.Json.Shape
import UiSurface.Json.Writer

/-!
# Storage — where designs are kept

A shelf keeps designs by id.  A folder keeps each in a file of its own, named for its id; files may
also have come there by other ways, so the id that counts is that of the batch in the file, and a
file that holds no batch is passed over.  Both answer in the order of ids.
-/

namespace UiSurface

/-- Why storage did not answer. -/
inductive StorageFault where
  /-- the id may not name a file -/
  | invalidId (id : Json)
  /-- the batch is no array of objects -/
  | notMessages
  /-- the id cannot be looked up, or the batch cannot be counted -/
  | shape (fault : ShapeFault)
  /-- a file holds an integer with too many digits -/
  | digits (fault : TooManyDigits)
deriving DecidableEq

def StorageFault.message : StorageFault → String
  | invalidId id => "Invalid design id: " ++ id.display
  | notMessages => "messages must be an array of objects"
  | shape fault => fault.message
  | digits fault => fault.message

/-- The design of a batch under an id. -/
def Design.ofBatch (id : String) (batch : Json) : Except StorageFault Design :=
  match Design.messagesOf? batch with
  | some messages => .ok ⟨id, messages⟩
  | none => .error .notMessages

/-- Designs in the order of their ids; those of one id stay as they were. -/
def Design.sort (ds : List Design) : List Design := ds.mergeSort fun a b => Text.precedes a.id b.id

/-! ## Shelves -/

abbrev Shelf := Record Design

namespace Shelf

/-- Keeps a batch under an id, whatever the id. -/
def put (s : Shelf) (id : String) (batch : Json) : Shelf × Except StorageFault Design :=
  match Design.ofBatch id batch with
  | .ok design => (Record.put s id design, .ok design)
  | .error fault => (s, .error fault)

def list (s : Shelf) : List Design := Design.sort (Record.values s)

/-- The design that a value is the id of. -/
def lookUp (s : Shelf) (id : Json) : Except StorageFault (Option Design) :=
  (Shape.lookUp s id).mapError .shape

/-- Drops the design of an id, and says whether there was one. -/
def delete (s : Shelf) (id : String) : Shelf × Bool := (Record.erase s id, Record.has s id)

/-- Drops the design that a value is the id of, and says whether there was one.  An empty shelf does
not look at the value. -/
def deleteValue (s : Shelf) (id : Json) : Shelf × Except StorageFault Bool :=
  match id, s with
  | .str id, _ => ((s.delete id).1, .ok (s.delete id).2)
  | _, [] => (s, .ok false)
  | id, _ => (s, (s.lookUp id).map Option.isSome)

end Shelf

/-! ## Folders -/

/-- A folder, by the names and texts of its files; none if it has not been made yet. -/
structure Folder where
  files? : Option (Record String)
deriving DecidableEq

namespace Folder

/-- A folder that has not been made yet. -/
def empty : Folder := ⟨none⟩

def files (f : Folder) : Record String := f.files?.getD []

def suffix : String := ".a2ui.json"

/-- The name of the file of an id (`_path`). -/
def fileName (id : String) : String := id ++ suffix

/-- The name of a design file without its ending; other files have none. -/
def stem? (name : String) : Option String :=
  let ending := suffix.toList
  if ending.isSuffixOf name.toList then
    some (String.ofList (name.toList.take (name.toList.length - ending.length)))
  else none

/-- Writes a file, and makes the folder if need be. -/
def write (f : Folder) (name text : String) : Folder := ⟨some (Record.put f.files name text)⟩

def text? (f : Folder) (name : String) : Option String := Record.get? f.files name

/-- The names of all files, in order; none if there is no folder. -/
def fileNames? (f : Folder) : Option (List String) :=
  f.files?.map (fun files => (Record.keys files).mergeSort (fun a b => decide (a ≤ b)))

/-- The design in a file (`_read`).  A text that is no JSON array holds none. -/
def readDesign (fallback text : String) : Except StorageFault (Option Design) :=
  match Json.ofText text with
  | .ok (.arr items) => (Design.ofBatch (Design.idOf items fallback) (.arr items)).map some
  | .ok _ | .error (.malformed ..) => .ok none
  | .error (.digits fault) => .error (.digits fault)

/-- The design files in the order of their names, each as the id that its name stands for and its
text. -/
def designFiles (f : Folder) : List (String × String) :=
  (f.files.mergeSort (fun a b => decide (a.1 ≤ b.1))).filterMap
    (fun e => (stem? e.1).map (fun stem => (stem, e.2)))

def list (f : Folder) : Except StorageFault (List Design) :=
  (f.designFiles.mapM (fun e => readDesign e.1 e.2)).map
    (fun found => Design.sort (found.filterMap id))

def readOwn (f : Folder) (id : String) : Except StorageFault (Option Design) :=
  match f.text? (fileName id) with
  | some text => readDesign id text
  | none => .ok none

/-- The design of an id: the one in its own file, or else the first in the list. -/
def get? (f : Folder) (id : Json) : Except StorageFault (Option Design) :=
  match Design.validId? id with
  | none => .ok none
  | some id => do
    let own ← f.readOwn id
    -- a file that came by another way may hold a design of another id
    match own.filter (fun d => d.id == id) with
    | some design => return some design
    | none => return (← f.list).find? (fun d => d.id == id)

/-- The design of a batch whose file is written: what was written is counted before it is judged. -/
def writtenDesign (id : String) (batch : Json) : Except StorageFault Design :=
  match Shape.length batch with
  | .ok _ => Design.ofBatch id batch
  | .error fault => .error (.shape fault)

/-- Writes a batch to the file of an id.  The file is written before the batch is judged. -/
def put (f : Folder) (id batch : Json) : Folder × Except StorageFault Design :=
  match Design.validId? id with
  | none => (f, .error (.invalidId id))
  | some id => (f.write (fileName id) batch.toLines, writtenDesign id batch)

/-- Deletes the file of an id, and says whether there was one. -/
def delete (f : Folder) (id : Json) : Folder × Bool :=
  match Design.validId? id with
  | none => (f, false)
  | some id =>
    if Record.has f.files (fileName id) then
      (⟨some (Record.erase f.files (fileName id))⟩, true)
    else (f, false)

end Folder

/-! ## Either -/

/-- Storage of one kind or the other. -/
inductive Storage where
  | shelf (s : Shelf)
  | folder (f : Folder)

namespace Storage

def list : Storage → Except StorageFault (List Design)
  | shelf s => .ok s.list
  | folder f => f.list

def get? : Storage → String → Except StorageFault (Option Design)
  | shelf s, id => .ok (Record.get? s id)
  | folder f, id => f.get? (.str id)

def put : Storage → String → Json → Storage × Except StorageFault Design
  | shelf s, id, batch =>
    let (s, result) := s.put id batch
    (shelf s, result)
  | folder f, id, batch =>
    let (f, result) := f.put (.str id) batch
    (folder f, result)

def delete : Storage → String → Storage × Bool
  | shelf s, id =>
    let (s, found) := s.delete id
    (shelf s, found)
  | folder f, id =>
    let (f, found) := f.delete (.str id)
    (folder f, found)

end Storage

end UiSurface
