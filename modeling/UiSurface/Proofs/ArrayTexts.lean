import UiSurface.Proofs.ObjectTexts

/-!
# Texts of arrays

A value is read alike whether its text stands alone or in an array.  Only where the value has ended is
there a difference: alone it is the result, and in an array it is an item, which may be followed by others.
So an array of objects is read from the texts of the objects.

Main lemmas: `Reader.within_step` (a character of a value, alone and in an array), `Reader.run_item` (the
text of an object as an item), `parse_array` (the text of an array).
-/

namespace UiSurface.Json

namespace Reader

variable {outer : List Frame}

/-! ## A value alone and in an array -/

/-- The state of a text that stands alone, and of the same text where it stands in containers that are
open. -/
inductive Within (outer : List Frame) : State → State → Prop
  | reading {offset : Nat} {stack : List Frame} {expect : Expect} {token : Partial}
      (hopen : expect.IsOpen) :
      Within outer (.reading offset stack expect token) (.reading offset (stack ++ outer) expect token)
  | finished (offset : Nat) (value : Json) :
      Within outer (.reading offset [] (.nothing value) .between) (accept offset outer value)
  /-- what cannot be read alone is not looked at -/
  | failed (failure : Failure) (s : State) : Within outer (.failed failure) s

section

variable {offset : Nat} {stack : List Frame} {expect : Expect}

/-- A finished value goes into the same container, or ends the text that stands alone. -/
theorem within_accept (value : Json) :
    Within outer (accept offset stack value) (accept offset (stack ++ outer) value) := by
  cases stack with
  | nil => exact .finished offset value
  | cons frame rest => cases frame <;> exact .reading trivial

/-- Where something may come yet, a move leads to the same, be there other containers below or not. -/
theorem within_perform {c : Char} {move : Move} (hopen : expect.IsOpen) (h : Fits c stack expect move) :
    Within outer (move.perform offset stack expect) (move.perform offset (stack ++ outer) expect) := by
  cases h with
  | gap | token => exact .reading hopen
  | pass hopen hnext => exact .reading hnext
  | array | object | name => exact .reading trivial
  | give | closeArray | closeObject => exact within_accept _

/-- A character between tokens is read alike. -/
theorem within_begin (hsuits : expect.Suits stack) (hopen : expect.IsOpen) (c : Char) :
    Within outer (begin offset stack expect c) (begin offset (stack ++ outer) expect c) := by
  rcases begin_moves hsuits c outer with hfailed | ⟨hfits, hmoved, hmoved'⟩
  · rw [hfailed]
    exact .failed _ _
  · rw [hmoved, hmoved']
    exact within_perform hopen hfits

/-- Behind a value that stands alone there is nothing but white space. -/
theorem within_finished (value : Json) (c : Char) :
    Within outer (begin offset [] (.nothing value) c) ((accept offset outer value).resume c) := by
  unfold begin
  split
  · rename_i hgap
    have hresume : (accept offset outer value).resume c = accept (offset + 1) outer value := by
      simp [accept, State.resume, begin, hgap]
    rw [hresume]
    exact .finished _ value
  · exact .failed _ _

theorem within_resume {s t : State} (hs : s.Proper) (h : Within outer s t) (c : Char) :
    Within outer (s.resume c) (t.resume c) := by
  cases h with
  | reading hopen => exact within_begin hs.1 hopen c
  | finished offset value => exact within_finished value c
  | failed failure t => exact .failed failure _

end

/-- A character of a value is read in an array as it is read alone. -/
theorem within_step {s t : State} (hs : s.Proper) (h : Within outer s t) (c : Char) :
    Within outer (step s c) (step t c) := by
  cases h with
  | failed failure s => exact .failed failure _
  | finished offset value => exact within_finished value c
  | reading hopen =>
    rcases step_reads hs c outer with
      (hfailed | ⟨hfits, hmoved, hmoved'⟩) | ⟨-, -, hbehind, hbehind'⟩
    · rw [hfailed]
      exact .failed _ _
    · rw [hmoved, hmoved']
      exact within_perform hopen hfits
    · rw [hbehind, hbehind']
      exact within_resume (proper_accept ..) (within_accept _) c

/-- A text is read in an array as it is read alone. -/
theorem within_run {s t : State} (hs : s.Proper) (h : Within outer s t) (cs : List Char) :
    Within outer (run s cs) (run t cs) := by
  induction cs generalizing s t with
  | nil => exact h
  | cons c cs ih => exact ih (kept_proper.step hs hs c) (within_step hs h c)

/-! ## Objects as items -/

section

variable (offset : Nat) (done : List Json) {below : List Frame}

/-- The text of an object gives an item where it stands in an array. -/
theorem run_item {cs : List Char} {members : Record Json} (h : (run initial cs).Done members) :
    ∃ place, run (.reading offset (.array done :: below) .value .between) cs =
      .reading place (.array (.obj members :: done) :: below) .separator .between := by
  have hempty : Within (.array done :: below) (.reading offset [] .value .between)
      (.reading offset (.array done :: below) .value .between) := .reading trivial
  have hproper : (State.reading offset [] .value .between).Proper := ⟨trivial, trivial, .inl rfl⟩
  have hwithin := within_run hproper hempty cs
  have hstart : State.reading offset [] .value .between = initial.shift offset := by
    simp [initial, State.shift, Partial.shift]
  obtain ⟨place, stack, halone⟩ := h
  rw [hstart, run_shift, halone] at hwithin
  generalize run (.reading offset (.array done :: below) .value .between) cs = t at hwithin ⊢
  cases hwithin with
  | reading hopen => cases hopen
  | finished place value => exact ⟨_, rfl⟩

/-- The first item may be missing; where it is an object, it is read as the others are. -/
theorem run_firstItem (cs : List Char) :
    run (.reading offset (.array [] :: below) .firstItem .between) ('{' :: cs) =
      run (.reading offset (.array [] :: below) .value .between) ('{' :: cs) := rfl

variable {text : Record Json → List Char}

/-- The text of each further object, on a line of its own, gives a further item. -/
theorem run_items {objects : List (Record Json)}
    (h : ∀ members ∈ objects, (run initial (text members)).Done members) :
    ∃ place, run (.reading offset (.array done :: below) .separator .between)
        (objects.flatMap fun members => ',' :: '\n' :: text members) =
      .reading place (.array ((objects.map .obj).reverse ++ done) :: below) .separator .between := by
  induction objects generalizing offset done with
  | nil => exact ⟨offset, rfl⟩
  | cons members objects ih =>
    obtain ⟨hmembers, hobjects⟩ := List.forall_mem_cons.mp h
    obtain ⟨place, hitem⟩ := run_item (offset + 2) done hmembers
    obtain ⟨last, hitems⟩ := ih place (.obj members :: done) hobjects
    have hcomma : run (.reading offset (.array done :: below) .separator .between) [',', '\n'] =
        .reading (offset + 2) (.array done :: below) .value .between := rfl
    refine ⟨last, ?_⟩
    rw [List.flatMap_cons, show ',' :: '\n' :: text members = [',', '\n'] ++ text members from rfl,
      run_append, run_append, hcomma, hitem, hitems]
    simp

end

end Reader

open Reader

/-- Texts of objects, each on a line of its own, with commas between them and between brackets, are an array
of these objects. -/
theorem parse_array {text : Record Json → List Char} {first : Record Json}
    {others : List (Record Json)} (hopen : (text first).head? = some '{')
    (h : ∀ members ∈ first :: others, parse (text members) = .ok (.obj members)) :
    parse ('[' :: '\n' :: (text first ++ (others.flatMap fun members => ',' :: '\n' :: text members) ++
      ['\n', ']'])) = .ok (.arr ((first :: others).map .obj)) := by
  obtain ⟨hfirst, hothers⟩ := List.forall_mem_cons.mp h
  simp only [parse_eq_ok_obj_iff] at hfirst hothers
  -- the first item begins with a brace, so it is no end of the array
  obtain ⟨rest, hrest⟩ := List.head?_eq_some_iff.mp hopen
  obtain ⟨place, hitem⟩ := run_item 2 [] hfirst
  obtain ⟨last, hitems⟩ := run_items place [.obj first] hothers
  have hstart : run (.reading 2 [.array []] .firstItem .between) (text first) =
      .reading place [.array [.obj first]] .separator .between := by
    rw [← hitem, hrest, run_firstItem]
  have hbracket (cs : List Char) : run initial ('[' :: '\n' :: cs) =
      run (.reading 2 [.array []] .firstItem .between) cs := rfl
  rw [parse, if_neg (by simp), readValue, hbracket, run_append, run_append, hstart, hitems]
  have hclose (items : List Json) : finish (run (.reading last [.array items] .separator .between)
      ['\n', ']']) = .ok (.arr items.reverse) := rfl
  rw [hclose]
  simp

end UiSurface.Json
