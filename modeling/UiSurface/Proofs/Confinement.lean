import Mathlib.Data.List.Induction
import UiSurface.Command.Files
import UiSurface.Proofs.Keeping

/-!
# Storage keeps to its directory

A folder is a directory of a disk, and its files lie where their names lead: a name with a slash would
lead elsewhere, and so would two full stops.  The names that storage writes and deletes are made of an
id, and an id that may name a file holds none of that, so that each is the name of a file in the
directory, for each id another.  Under any other id storage does nothing.

Main lemmas: `Design.validId?_eq_some_iff` (which ids may name a file), `Design.isPlainName_fileName` and
`IsPlainName.locate` (where the file of an id lies), `Folder.serve_cases` (one request),
`Folder.holding_serveAll` and `Folder.text?_serveAll` (a run), `Folder.storage_keeps_to_its_directory`.
-/

namespace UiSurface

/-! ## Places -/

/-- A place on a disk: the names that lead to it from the root. -/
abbrev Place := List String

/-- Where a segment of a path leads.  Above the root is the root. -/
def Place.enter (here : Place) (segment : String) : Place :=
  if segment = ".." then here.dropLast else here ++ [segment]

/-- Where a path leads that is read in a directory: a slash in front leads to the root. -/
def Place.locate (dir : Place) (path : String) : Place :=
  (Files.segments path).foldl Place.enter (if Files.root path = "" then dir else [])

/-- A name that leads to a file of the directory that it is read in. -/
structure IsPlainName (name : String) : Prop where
  no_slash : '/' ∉ name.toList
  ne_empty : name ≠ ""
  ne_dot : name ≠ "."
  ne_dots : name ≠ ".."

namespace IsPlainName

variable {name : String}

/-- The name of a file is the only segment of its path. -/
theorem segments (h : IsPlainName name) : Files.segments name = [name] := by
  rw [Files.segments, Text.splitAt_of_not_mem h.no_slash]
  simp [h.ne_empty, h.ne_dot]

/-- The name of a file does not lead to the root. -/
theorem root (h : IsPlainName name) : Files.root name = "" := by
  unfold Files.root
  split
  all_goals first
    | rfl
    | rename_i hname; exact absurd (hname ▸ List.mem_cons_self) h.no_slash

/-- A plain name leads into the directory that it is read in. -/
theorem locate (h : IsPlainName name) (dir : Place) : Place.locate dir name = dir ++ [name] := by
  rw [Place.locate, h.segments, h.root]
  simp [Place.enter, h.ne_dots]

end IsPlainName

/-! ## Ids -/

namespace Design

def IsPlainChar (c : Char) : Prop :=
  ('A' ≤ c ∧ c ≤ 'Z') ∨ ('a' ≤ c ∧ c ≤ 'z') ∨ ('0' ≤ c ∧ c ≤ '9') ∨ c = '_' ∨ c = '.' ∨ c = '-'

/-- A value that is an id which may name a file: a text of between one and two hundred characters of
ids. -/
def NamesFile (id : Json) : Prop :=
  ∃ text, id = .str text ∧ 1 ≤ text.length ∧ text.length ≤ 200 ∧ ∀ c ∈ text.toList, IsPlainChar c

/-- Ids are made of letters and digits of ASCII, the low line and the hyphen. -/
theorem isIdChar_iff (c : Char) : isIdChar c = true ↔ IsPlainChar c := by
  have hupper : c.isUpper = true ↔ 'A' ≤ c ∧ c ≤ 'Z' := decide_eq_true_iff
  have hlower : c.isLower = true ↔ 'a' ≤ c ∧ c ≤ 'z' :=
    (Bool.and_eq_true_iff).trans (and_congr decide_eq_true_iff decide_eq_true_iff)
  have hdigit : c.isDigit = true ↔ '0' ≤ c ∧ c ≤ '9' :=
    (Bool.and_eq_true_iff).trans (and_congr decide_eq_true_iff decide_eq_true_iff)
  have halphanum : c.isAlphanum = ((c.isUpper || c.isLower) || c.isDigit) := rfl
  simp only [isIdChar, IsPlainChar, halphanum, Bool.or_eq_true, hupper, hlower, hdigit, beq_iff_eq,
    or_assoc]

theorem isValidId_iff (text : String) :
    isValidId text = true ↔
      1 ≤ text.length ∧ text.length ≤ 200 ∧ ∀ c ∈ text.toList, IsPlainChar c := by
  have hlength : text.isEmpty = false ↔ 1 ≤ text.length := by
    rw [← Bool.not_eq_true, String.isEmpty_iff, Nat.one_le_iff_ne_zero, ne_eq, String.length_eq_zero_iff]
  simp only [isValidId, isIdText, Bool.and_eq_true, decide_eq_true_iff, Bool.not_eq_true', hlength,
    List.all_eq_true, isIdChar_iff]
  exact and_left_comm

theorem namesFile_str_iff (text : String) : NamesFile (.str text) ↔ isValidId text = true := by
  rw [isValidId_iff]
  refine ⟨?_, fun hvalid => ⟨text, rfl, hvalid⟩⟩
  rintro ⟨found, hfound, hvalid⟩
  exact Json.str.inj hfound ▸ hvalid

/-- The ids that may name a file are texts of the right length and characters. -/
theorem validId?_eq_some_iff (id : Json) (text : String) :
    validId? id = some text ↔ id = .str text ∧ NamesFile id := by
  constructor
  · intro h
    cases id with
    | str found =>
      simp only [validId?] at h
      split at h
      · obtain rfl := Option.some.inj h
        rename_i hvalid
        exact ⟨rfl, (namesFile_str_iff found).mpr hvalid⟩
      · cases h
    | _ => cases h
  · rintro ⟨rfl, hnames⟩
    exact validId?_of_valid ((namesFile_str_iff text).mp hnames)

/-- Any other value is no such id. -/
theorem validId?_eq_none_iff (id : Json) : validId? id = none ↔ ¬ NamesFile id := by
  rw [Option.eq_none_iff_forall_ne_some]
  constructor
  · rintro hnone ⟨text, rfl, hvalid⟩
    exact hnone text ((validId?_eq_some_iff _ text).mpr ⟨rfl, text, rfl, hvalid⟩)
  · intro hnot text hsome
    exact hnot ((validId?_eq_some_iff id text).mp hsome).2

end Design

/-! ## Disks -/

/-- What lies on a disk: at each place the text of the file, if there is one. -/
abbrev Disk := Place → Option String

/-- A disk with a folder as a directory: each file lies where its name leads. -/
def Disk.holding (disk : Disk) (dir : Place) (f : Folder) : Disk := fun place =>
  ((f.files.find? fun e => decide (Place.locate dir e.1 = place)).map Prod.snd).or (disk place)

namespace Record

variable {α : Type}

/-- A write is not seen by who looks for other names. -/
theorem find?_put_of_not (r : Record α) (sought : String → Bool) {name : String} (value : α)
    (h : sought name = false) :
    (put r name value).find? (fun e => sought e.1) = r.find? (fun e => sought e.1) := by
  induction r with
  | nil => simp [put, h]
  | cons e r ih =>
    obtain ⟨key, old⟩ := e
    simp only [put]
    split
    · rename_i hkey
      simp [hkey, h]
    · rw [List.find?_cons, List.find?_cons, ih]

/-- Nor is it seen that a name is gone. -/
theorem find?_erase_of_not (r : Record α) (sought : String → Bool) {name : String}
    (h : sought name = false) :
    (erase r name).find? (fun e => sought e.1) = r.find? (fun e => sought e.1) := by
  rw [erase, List.find?_filter]
  congr 1
  funext e
  by_cases hname : e.1 = name
  · simp [hname, h]
  · simp [hname]

end Record

namespace Folder

/-- The name that an id gives to a file. -/
theorem isPlainName_fileName {text : String} (h : Design.NamesFile (.str text)) :
    IsPlainName (fileName text) := by
  have hslash : '/' ∉ text.toList :=
    Design.not_mem_of_isValidId ((Design.namesFile_str_iff text).mp h) rfl
  have hlong : ∀ name : String, name.length < 3 → fileName text ≠ name := by
    intro name hname heq
    have hlength := congrArg String.length heq
    have hsuffix : 2 < suffix.length := by decide
    rw [fileName, String.length_append] at hlength
    omega
  refine ⟨?_, hlong "" (by decide), hlong "." (by decide), hlong ".." (by decide)⟩
  have hsuffix : '/' ∉ suffix.toList := by decide
  simp [fileName, String.toList_append, hslash, hsuffix]

/-! ## Requests -/

/-- What storage is asked for. -/
inductive Request where
  | put (id batch : Json)
  | get (id : Json)
  | delete (id : Json)

def serve (f : Folder) : Request → Folder
  | .put id batch => (f.put id batch).1
  | .get _ => f
  | .delete id => (f.delete id).1

def serveAll (f : Folder) (rs : List Request) : Folder := rs.foldl serve f

/-- The file that a request may write or delete. -/
def Request.file? : Request → Option String
  | .put id _ | .delete id => (Design.validId? id).map fileName
  | .get _ => none

/-- What a request makes of the text of its file. -/
def Request.after (text? : Option String) : Request → Option String
  | .put _ batch => some batch.toLines
  | .get _ => text?
  | .delete _ => none

/-- What a request can do: nothing, or it writes its file or deletes it. -/
theorem serve_cases (f : Folder) (r : Request) :
    (r.file? = none ∧ f.serve r = f) ∨
    (∃ name text, r.file? = some name ∧ (∀ old, r.after old = some text) ∧
      (f.serve r).files = Record.put f.files name text) ∨
    (∃ name, r.file? = some name ∧ (∀ old, r.after old = none) ∧
      (f.serve r).files = Record.erase f.files name) := by
  -- a request touches no file unless its id names one
  cases r with
  | get id => exact Or.inl ⟨rfl, rfl⟩
  | put id batch =>
    cases hid : Design.validId? id with
    | none => exact Or.inl ⟨by simp [Request.file?, hid], by simp [serve, put, hid]⟩
    | some text =>
      refine Or.inr (Or.inl ⟨fileName text, batch.toLines, ?_, fun _ => rfl, ?_⟩)
      · simp [Request.file?, hid]
      · simp [serve, put, hid, write, files]
  | delete id =>
    cases hid : Design.validId? id with
    | none => exact Or.inl ⟨by simp [Request.file?, hid], by simp [serve, delete, hid]⟩
    | some text =>
      refine Or.inr (Or.inr ⟨fileName text, by simp [Request.file?, hid], fun _ => rfl, ?_⟩)
      obtain ⟨rfl, hnames⟩ := (Design.validId?_eq_some_iff id text).mp hid
      exact (f.delete_of_valid ((Design.namesFile_str_iff text).mp hnames)).1

/-- The text of any file after a request. -/
theorem text?_serve (f : Folder) (r : Request) (name : String) :
    (f.serve r).text? name = if r.file? = some name then r.after (f.text? name) else f.text? name := by
  rcases f.serve_cases r with
    ⟨hfile, hsame⟩ | ⟨own, text, hfile, hafter, hfiles⟩ | ⟨own, hfile, hafter, hfiles⟩
  · simp [hfile, hsame]
  · simp only [text?, hfiles, hfile, hafter, Record.get?_put, Option.some.injEq]
  · simp only [text?, hfiles, hfile, hafter, Option.some.injEq]
    by_cases hname : own = name
    · simp [hname]
    · rw [if_neg hname, Record.get?_erase_of_ne _ (Ne.symm hname)]

/-- A request changes no place of the disk but that of its file. -/
theorem holding_serve (disk : Disk) (dir : Place) (f : Folder) (r : Request) {place : Place}
    (h : ∀ name, r.file? = some name → place ≠ Place.locate dir name) :
    disk.holding dir (f.serve r) place = disk.holding dir f place := by
  rcases f.serve_cases r with ⟨-, hsame⟩ | ⟨own, text, hfile, -, hfiles⟩ | ⟨own, hfile, -, hfiles⟩
  · rw [hsame]
  · have hown : decide (Place.locate dir own = place) = false := decide_eq_false (Ne.symm (h own hfile))
    rw [Disk.holding, hfiles,
      Record.find?_put_of_not _ (fun name => decide (Place.locate dir name = place)) _ hown]
    rfl
  · have hown : decide (Place.locate dir own = place) = false := decide_eq_false (Ne.symm (h own hfile))
    rw [Disk.holding, hfiles,
      Record.find?_erase_of_not _ (fun name => decide (Place.locate dir name = place)) hown]
    rfl

/-- The text of a file after requests is what those about it make of it. -/
theorem text?_serveAll (f : Folder) (rs : List Request) (name : String) :
    (f.serveAll rs).text? name =
      (rs.filter fun r => decide (r.file? = some name)).foldl Request.after (f.text? name) := by
  induction rs using List.reverseRecOn with
  | nil => rfl
  | append_singleton rs r ih =>
    have hstep : f.serveAll (rs ++ [r]) = (f.serveAll rs).serve r := by simp [serveAll]
    rw [hstep, text?_serve, ih, List.filter_append, List.foldl_append]
    by_cases hfile : r.file? = some name <;> simp [hfile]

/-- Requests change no place of the disk but those of their files. -/
theorem holding_serveAll (disk : Disk) (dir : Place) (f : Folder) (rs : List Request)
    {place : Place}
    (h : ∀ r ∈ rs, ∀ name, r.file? = some name → place ≠ Place.locate dir name) :
    disk.holding dir (f.serveAll rs) place = disk.holding dir f place := by
  induction rs generalizing f with
  | nil => rfl
  | cons r rs ih =>
    exact (ih (f.serve r) fun r hr => h r (List.mem_cons_of_mem _ hr)).trans
      (holding_serve disk dir f r (h r List.mem_cons_self))

/-- The file of a request is that of its id, where the id may name a file. -/
theorem Request.exists_of_file? {r : Request} {name : String} (h : r.file? = some name) :
    ∃ text, Design.NamesFile (.str text) ∧ name = fileName text ∧
      ((∃ batch, r = .put (.str text) batch) ∨ r = .delete (.str text)) := by
  cases r with
  | get id => cases h
  | put id batch =>
    obtain ⟨text, hvalid, rfl⟩ := Option.map_eq_some_iff.mp h
    obtain ⟨rfl, hnames⟩ := (Design.validId?_eq_some_iff id text).mp hvalid
    exact ⟨text, hnames, rfl, Or.inl ⟨batch, rfl⟩⟩
  | delete id =>
    obtain ⟨text, hvalid, rfl⟩ := Option.map_eq_some_iff.mp h
    obtain ⟨rfl, hnames⟩ := (Design.validId?_eq_some_iff id text).mp hvalid
    exact ⟨text, hnames, rfl, Or.inr rfl⟩

/-! ## Answers -/

/-- Under an id that may name no file nothing is done and nothing found. -/
theorem refuses_of_not_namesFile (f : Folder) {id : Json} (h : ¬ Design.NamesFile id) :
    (∀ batch, f.put id batch = (f, .error (.invalidId id))) ∧
      f.get? id = .ok none ∧ f.delete id = (f, false) := by
  have hnone := (Design.validId?_eq_none_iff id).mpr h
  exact ⟨fun batch => by simp only [put, hnone], by simp only [get?, hnone],
    by simp only [delete, hnone]⟩

/-- Storage keeps to its directory.  If an id is no text of between one and two hundred of the characters
of ids, nothing is put, found or deleted under it, and the folder is the same.  Otherwise its file has a
plain name and so lies in the directory; what is put is its text, and deleting says whether it was there
and leaves none.  Different ids have files at different places.  Whatever storage is asked for, the disk
stays as it is but at the places of those files that something was put to or deleted, and what becomes of
a file depends on the requests about it alone. -/
theorem storage_keeps_to_its_directory (disk : Disk) (dir : Place) (f : Folder) :
    (∀ id, ¬ Design.NamesFile id →
      (∀ batch, f.put id batch = (f, .error (.invalidId id))) ∧
      f.get? id = .ok none ∧ f.delete id = (f, false)) ∧
    (∀ text, Design.NamesFile (.str text) →
      IsPlainName (fileName text) ∧
      Place.locate dir (fileName text) = dir ++ [fileName text] ∧
      (∀ batch, (f.put (.str text) batch).1.text? (fileName text) = some batch.toLines) ∧
      (f.delete (.str text)).1.text? (fileName text) = none ∧
      (f.delete (.str text)).2 = (f.text? (fileName text)).isSome) ∧
    (∀ text other, dir ++ [fileName text] = dir ++ [fileName other] → text = other) ∧
    (∀ rs place,
      (∀ text, Design.NamesFile (.str text) →
        ((∃ batch, Request.put (.str text) batch ∈ rs) ∨ Request.delete (.str text) ∈ rs) →
        place ≠ dir ++ [fileName text]) →
      disk.holding dir (f.serveAll rs) place = disk.holding dir f place) ∧
    (∀ rs name, (f.serveAll rs).text? name =
      (rs.filter fun r => decide (r.file? = some name)).foldl Request.after (f.text? name)) := by
  refine ⟨fun id => f.refuses_of_not_namesFile, fun text hnames => ?_, fun text other heq => ?_,
    fun rs place hplace => ?_, f.text?_serveAll⟩
  · have hplain := isPlainName_fileName hnames
    have hvalid? := (Design.validId?_eq_some_iff _ text).mpr ⟨rfl, hnames⟩
    have hput : ∀ batch, (Request.put (.str text) batch).file? = some (fileName text) := fun _ => by
      simp [Request.file?, hvalid?]
    have hdelete : (Request.delete (.str text)).file? = some (fileName text) := by
      simp [Request.file?, hvalid?]
    refine ⟨hplain, hplain.locate dir, fun batch => ?_, ?_, ?_⟩
    · exact (f.text?_serve (.put (.str text) batch) (fileName text)).trans (if_pos (hput batch))
    · exact (f.text?_serve (.delete (.str text)) (fileName text)).trans (if_pos hdelete)
    · exact (f.delete_of_valid ((Design.namesFile_str_iff text).mp hnames)).2
  · exact fileName_injective text other (List.singleton_inj.mp (List.append_cancel_left heq))
  · -- a place that no request names is none of the files that are written
    refine holding_serveAll disk dir f rs fun r hr name hfile => ?_
    obtain ⟨text, hnames, rfl, hasked⟩ := Request.exists_of_file? hfile
    rw [(isPlainName_fileName hnames).locate]
    refine hplace text hnames ?_
    rcases hasked with ⟨batch, rfl⟩ | rfl
    · exact Or.inl ⟨batch, hr⟩
    · exact Or.inr hr

/-- A directory beside which there is another file: ids that would lead to it, or that end with the end
of a line, are refused; a design is put to its own file, and another deleted. -/
theorem ways_out_are_refused :
    let dir : Place := ["srv", "designs"]
    let disk : Disk := fun place => if place = ["srv", "key.a2ui.json"] then some "secret" else none
    let f : Folder := ⟨some [("clock.a2ui.json", "[]")]⟩
    let rs : List Request := [.put (.str "../key") .null, .delete (.str "../key"),
      .put (.str "/srv/key") .null, .put (.str "tile\n") .null, .get (.str "tile"),
      .put (.str "tile") (.arr []), .delete (.str "clock")]
    disk.holding dir (f.serveAll rs) ["srv", "key.a2ui.json"] = some "secret" ∧
      f.put (.str "../key") .null = (f, .error (.invalidId (.str "../key"))) ∧
      f.get? (.str "tile\n") = .ok none ∧ f.delete (.str "") = (f, false) ∧
      (f.delete (.str "clock")).2 = true ∧ Place.locate dir (fileName "../key") = ["srv", "key.a2ui.json"] ∧
      (f.serveAll rs).text? "tile.a2ui.json" = some "[]" ∧
      (f.serveAll rs).text? "clock.a2ui.json" = none := by
  intro dir disk f rs
  obtain ⟨hrefused, hkept, -, hframe, htexts⟩ := storage_keeps_to_its_directory disk dir f
  have hno : ∀ text ∈ ["../key", "tile\n", ""], ¬ Design.NamesFile (.str text) := by
    have hbad : ∀ text ∈ ["../key", "tile\n", ""], Design.isValidId text = false := by
      decide +kernel
    intro text htext hnames
    exact Bool.false_ne_true ((hbad text htext).symm.trans ((Design.namesFile_str_iff text).mp hnames))
  have hclock : Design.NamesFile (.str "clock") := (Design.namesFile_str_iff _).mpr (by decide +kernel)
  refine ⟨?_, (hrefused _ (hno "../key" (by simp))).1 .null, (hrefused _ (hno "tile\n" (by simp))).2.1,
    (hrefused _ (hno "" (by simp))).2.2, ?_, by decide +kernel, ?_, ?_⟩
  · refine (hframe rs ["srv", "key.a2ui.json"] fun text _ _ heq => ?_).trans (by decide +kernel)
    have hlengths := congrArg List.length heq
    simp [dir] at hlengths
  · exact (hkept "clock" hclock).2.2.2.2
  · exact (htexts rs "tile.a2ui.json").trans (by decide +kernel)
  · exact (htexts rs "clock.a2ui.json").trans (by decide +kernel)

end Folder

end UiSurface
