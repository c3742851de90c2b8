import Mathlib.Data.List.Induction
import UiSurface.Proofs.InStrings

/-!
# Texts of objects

A text that is read as an object begins with a brace and ends with one, white space aside.  So it is still
read as that object when white space is dropped at its ends, be it that of JSON or that of Unicode: of the
latter, what is none of JSON cannot stand there.

Dropping white space in front moves all that follows.  The reader knows the place that it has come to, but
only for its faults.

Main lemmas: `Reader.run_shift` (a text that begins later), `Reader.done_step` (how an object ends),
`Reader.kept_isArray` (what begins with a bracket is no object), `exists_gaps_append`,
`exists_append_gaps` and `parse_trim`, `parse_overlong` (an integer that is not read).
-/

namespace UiSurface

namespace Text

/-- What is dropped from the end may be longer. -/
theorem dropEndWhile_append {p : Char → Bool} {cs : List Char} (h : ∀ c ∈ cs, p c = true)
    (front : List Char) : dropEndWhile p (front ++ cs) = dropEndWhile p front := by
  have hreverse : ∀ c ∈ cs.reverse, p c = true := fun c hc => h c (List.mem_reverse.mp hc)
  rw [dropEndWhile, List.reverse_append, List.dropWhile_append_of_pos hreverse, dropEndWhile]

/-- Nothing is dropped behind a character that stays. -/
theorem dropEndWhile_of_getLast? {p : Char → Bool} {cs : List Char} {c : Char}
    (h : cs.getLast? = some c) (hc : p c = false) : dropEndWhile p cs = cs := by
  obtain ⟨front, rfl⟩ := List.getLast?_eq_some_iff.mp h
  simp [dropEndWhile, hc]

end Text

namespace Json

namespace Reader

/-! ## Places -/

/-- A fault of a text that begins later. -/
def Failure.shift (k : Nat) : Failure → Failure
  | malformed cause offset => malformed cause (offset + k)
  | digits fault => digits fault

/-- A token of a text that begins later. -/
def Partial.shift (k : Nat) : Partial → Partial
  | literal start rest value => literal (start + k) rest value
  | minus start => minus (start + k)
  | point negative digits place => point negative digits (place + k)
  | mark negative digits decimals place sign => mark negative digits decimals (place + k) sign
  | string start chars high escaped => string (start + k) chars high (escaped.map (· + k))
  | escape start chars high place => escape (start + k) chars high (place + k)
  | unicode start chars high place count value =>
    unicode (start + k) chars high (place + k) count value
  | token => token

/-- The state of a text that begins later. -/
def State.shift (k : Nat) : State → State
  | reading offset stack expect token => reading (offset + k) stack expect (token.shift k)
  | failed failure => failed (failure.shift k)

variable {offset : Nat} {stack : List Frame} {expect : Expect}

section

variable (k : Nat)

theorem accept_shift (value : Json) :
    accept (offset + k) stack value = (accept offset stack value).shift k := rfl

/-- A number is given at a later place as it is otherwise. -/
theorem acceptNumber_shift (negative : Bool) (whole fraction : List Char) (exponentNegative : Bool)
    (exponent : List Char) :
    acceptNumber (offset + k) stack negative whole fraction exponentNegative exponent =
      (acceptNumber offset stack negative whole fraction exponentNegative exponent).shift k := by
  unfold acceptNumber
  split <;> rfl

theorem reject_shift (place : Nat) (s : State) :
    (s.shift k).reject (place + k) = (s.reject place).shift k := by
  cases s <;> rfl

/-- A value begins at a later place as it does otherwise. -/
theorem beginValue_shift (c : Char) :
    beginValue (offset + k) stack expect c = (beginValue offset stack expect c).shift k := by
  have hnext : offset + k + 1 = offset + 1 + k := Nat.add_right_comm ..
  unfold beginValue
  simp only [hnext]
  split
  all_goals try rfl
  split <;> rfl

theorem begin_shift (c : Char) :
    begin (offset + k) stack expect c = (begin offset stack expect c).shift k := by
  have hnext : offset + k + 1 = offset + 1 + k := Nat.add_right_comm ..
  unfold begin
  simp only [hnext, accept_shift, beginValue_shift]
  split
  · rfl
  · split
    all_goals try rfl
    all_goals split
    all_goals try rfl
    all_goals split <;> rfl

theorem resume_shift (s : State) (c : Char) : (s.shift k).resume c = (s.resume c).shift k := by
  cases s with
  | reading offset stack expect token => exact begin_shift k c
  | failed failure => rfl

/-- A string ends at a later place as it does otherwise. -/
theorem closeString_shift (chars : List Char) :
    closeString (offset + k) stack expect chars = (closeString offset stack expect chars).shift k := by
  unfold closeString
  split <;> rfl

/-- A character of a text that begins later is read as it is otherwise. -/
theorem step_shift (s : State) (c : Char) : step (s.shift k) c = (step s c).shift k := by
  cases s with
  | failed failure => rfl
  | reading offset stack expect token =>
    have hnext : offset + k + 1 = offset + 1 + k := Nat.add_right_comm ..
    change step (.reading (offset + k) stack expect (token.shift k)) c = _
    -- where the token stands is noted, and never looked at
    cases token with
    | between => exact begin_shift k c
    | literal start rest value =>
      simp only [step, stepReading, Partial.shift, hnext, accept_shift]
      split
      · rfl
      · split
        · split <;> rfl
        · rfl
    | minus | whole | point | fraction | mark | exponent =>
      simp only [step, stepReading, Partial.shift, hnext, acceptNumber_shift, resume_shift,
        reject_shift]
      repeat' split
      all_goals rfl
    | string | escape | unicode =>
      simp only [step, stepReading, Partial.shift, hnext, closeString_shift]
      repeat' split
      all_goals rfl

/-- A text that begins later is read as it is otherwise, but for the places of its faults. -/
theorem run_shift (s : State) (cs : List Char) : run (s.shift k) cs = (run s cs).shift k := by
  induction cs generalizing s with
  | nil => rfl
  | cons c cs ih => rw [run, List.foldl_cons, step_shift]; exact ih _

end

/-! ## The end of an object -/

/-- An object has been read, and nothing but white space may follow. -/
def State.Done (members : Record Json) (s : State) : Prop :=
  ∃ offset stack, s = .reading offset stack (.nothing (.obj members)) .between

section Done

variable {members : Record Json}

@[simp] theorem done_reading {token : Partial} :
    (State.reading offset stack expect token).Done members ↔
      expect = .nothing (.obj members) ∧ token = .between := by
  simp [State.Done]

@[simp] theorem not_done_failed (failure : Failure) : ¬ (State.failed failure).Done members := nofun

theorem finish_of_done {s : State} (h : s.Done members) : finish s = .ok (.obj members) := by
  obtain ⟨offset, stack, rfl⟩ := h
  rfl

/-- An object is done only if it was given last. -/
theorem done_accept {value : Json} (h : (accept offset stack value).Done members) :
    value = .obj members := by
  cases stack with
  | nil => simpa [accept, deliver] using h
  | cons frame rest => cases frame <;> simp [accept, deliver] at h

/-- Where a text ends as an object, the reader has read one. -/
theorem done_of_finish {s : State} (h : finish s = .ok (.obj members)) : s.Done members := by
  rcases finish_eq_ok h with hdone | hscalar
  · exact hdone
  · cases hscalar

variable {c : Char}

/-- An object ends at its brace, and white space leaves it read. -/
theorem done_perform {place : Nat} {move : Move} (hfits : Fits c stack expect move)
    (h : (move.perform place stack expect).Done members) :
    c = '}' ∨ isGap c = true ∧ expect = .nothing (.obj members) := by
  cases hfits with
  | gap hgap => exact .inr ⟨hgap, (done_reading.mp h).1⟩
  | token hopen hplain hne => exact absurd (done_reading.mp h).2 hne
  | pass hopen hnext =>
    obtain ⟨rfl, -⟩ := done_reading.mp h
    cases hnext
  | array | object | name => cases (done_reading.mp h).1
  | give hopen hscalar =>
    obtain rfl := done_accept h
    cases hscalar
  | closeArray => cases done_accept h
  | closeObject hbrace => exact .inl hbrace

/-- Between tokens, an object ends at its brace, and white space leaves it read. -/
theorem done_begin (hsuits : expect.Suits stack) (h : (begin offset stack expect c).Done members) :
    c = '}' ∨ isGap c = true ∧ expect = .nothing (.obj members) := by
  rcases begin_moves hsuits c [] with hfailed | ⟨hfits, hmoved, -⟩
  · rw [hfailed] at h
    exact absurd h (not_done_failed _)
  · rw [hmoved] at h
    exact done_perform hfits h

/-- The last character of an object is its brace, white space aside. -/
theorem done_step {s : State} (hs : s.Proper) (h : (step s c).Done members) :
    c = '}' ∨ isGap c = true ∧ s.Done members := by
  cases s with
  | failed failure => exact absurd h (not_done_failed _)
  | reading offset stack expect token =>
    rcases step_reads hs c [] with (hfailed | ⟨hfits, hmoved, -⟩) | ⟨hopen, hscalar, hbehind, -⟩
    · rw [hfailed] at h
      exact absurd h (not_done_failed _)
    · rw [hmoved] at h
      -- an object that has been read has no token behind it
      refine (done_perform hfits h).imp_right ?_
      rintro ⟨hgap, rfl⟩
      exact ⟨hgap, done_reading.mpr ⟨rfl, hs.2.2.resolve_right id⟩⟩
    · rw [hbehind] at h
      rcases done_begin (proper_accept offset stack _).1 h with hbrace | ⟨-, hexpect⟩
      · exact .inl hbrace
      · obtain rfl := done_accept (done_reading.mpr ⟨hexpect, rfl⟩ : (accept offset stack _).Done members)
        cases hscalar

/-- A text that is an object ends with a brace, and white space behind it that may be left out. -/
theorem exists_append_of_done {cs : List Char} (h : (run initial cs).Done members) :
    ∃ core gaps, cs = core ++ gaps ∧ (∀ c ∈ gaps, isGap c = true) ∧
      core.getLast? = some '}' ∧ (run initial core).Done members := by
  induction cs using List.reverseRecOn with
  | nil => simp [run, initial] at h
  | append_singleton cs c ih =>
    have hstep : run initial (cs ++ [c]) = step (run initial cs) c := run_append initial cs [c]
    rcases done_step (proper_run cs) (hstep ▸ h) with rfl | ⟨hgap, hdone⟩
    · exact ⟨cs ++ ['}'], [], by simp, nofun, by simp, h⟩
    · obtain ⟨core, gaps, rfl, hgaps, hlast, hcore⟩ := ih hdone
      refine ⟨core, gaps ++ [c], by simp, ?_, hlast, hcore⟩
      simpa [or_imp, forall_and] using ⟨hgaps, hgap⟩

end Done

/-! ## The beginning of an object -/

/-- The outermost of the open containers is an array. -/
def InArray (stack : List Frame) : Prop := ∃ done, stack.getLast? = some (.array done)

/-- The text is an array so far: the reader is in it, or has read it. -/
def State.IsArray : State → Prop
  | reading _ stack expect token =>
    (InArray stack ∧ expect.IsOpen) ∨
      stack = [] ∧ token = .between ∧ ∃ items, expect = .nothing (.arr items)
  | failed _ => True

/-- An array stays the outermost container when another one is opened in it. -/
theorem InArray.cons (h : InArray stack) (frame : Frame) : InArray (frame :: stack) := by
  obtain ⟨done, h⟩ := h
  exact ⟨done, by rw [List.getLast?_cons, h]; rfl⟩

/-- Below the innermost container there is the array, or else that container is it. -/
theorem InArray.of_cons {frame : Frame} (h : InArray (frame :: stack)) :
    InArray stack ∨ stack = [] ∧ ∃ done, frame = .array done := by
  obtain ⟨done, h⟩ := h
  cases stack with
  | nil => exact .inr ⟨rfl, done, Option.some.inj h⟩
  | cons next rest => exact .inl ⟨done, h⟩

theorem inArray_array (done : List Json) (h : InArray stack ∨ stack = []) :
    InArray (.array done :: stack) := by
  rcases h with h | rfl
  · exact h.cons _
  · exact ⟨done, rfl⟩

/-- A value that is given in an array leaves the text an array. -/
theorem isArray_accept (h : InArray stack) (value : Json) : (accept offset stack value).IsArray := by
  cases stack with
  | nil => exact absurd h (by rintro ⟨done, h⟩; cases h)
  | cons frame rest =>
    refine .inl ⟨?_, by cases frame <;> trivial⟩
    cases frame with
    | array done => exact inArray_array _ (h.of_cons.imp_right And.left)
    | object done | member done key =>
      rcases h.of_cons with h | ⟨-, done', h⟩
      · exact h.cons _
      · cases h

/-- An array that ends is an item of the one that it is in, or the outermost. -/
theorem isArray_closeArray {done : List Json} (h : InArray (.array done :: stack)) (items : List Json) :
    (accept offset stack (.arr items)).IsArray := by
  rcases h.of_cons with h | ⟨rfl, -⟩
  · exact isArray_accept h _
  · exact .inr ⟨rfl, rfl, items, rfl⟩

theorem InArray.of_object {done : Record Json} (h : InArray (.object done :: stack)) :
    InArray stack := by
  rcases h.of_cons with h | ⟨-, done', h⟩
  · exact h
  · cases h

/-- A text that is an array so far stays one. -/
theorem kept_isArray : Kept State.IsArray where
  failed _ := trivial
  move hs h := by
    rcases hs with ⟨harray, hexpect⟩ | ⟨rfl, -, items, rfl⟩
    · cases h with
      | gap | token => exact .inl ⟨harray, hexpect⟩
      | pass hopen hnext => exact .inl ⟨harray, hnext⟩
      | array | object => exact .inl ⟨harray.cons _, trivial⟩
      | name => exact .inl ⟨harray.of_object.cons _, trivial⟩
      | give => exact isArray_accept harray _
      | closeArray => exact isArray_closeArray harray _
      | closeObject => exact isArray_accept harray.of_object _
    · -- behind an array that was read there is nothing but white space
      cases h with
      | gap => exact .inr ⟨rfl, rfl, items, rfl⟩
      | token hopen | pass hopen | array hopen | object hopen | give hopen => cases hopen

/-- A text with a bracket in front is no object. -/
theorem not_done_bracket {members : Record Json} (cs : List Char) :
    ¬ (run initial ('[' :: cs)).Done members := by
  have hopened : (step initial '[').IsArray := .inl ⟨⟨[], rfl⟩, trivial⟩
  have hproper : (step initial '[').Proper := proper_run ['[']
  rintro ⟨offset, stack, h⟩
  have harray : (run initial ('[' :: cs)).IsArray := kept_isArray.run hproper hopened cs
  rw [h] at harray
  rcases harray with ⟨-, hopen⟩ | ⟨-, -, items, hitems⟩
  · cases hopen
  · cases hitems

/-! ## White space at the ends -/

theorem done_shift {members : Record Json} {k : Nat} {s : State} :
    (s.shift k).Done members ↔ s.Done members := by
  cases s with
  | failed failure => simp [State.shift]
  | reading offset stack expect token => cases token <;> simp [State.shift, Partial.shift]

/-- White space in front is passed over. -/
theorem run_cons_of_isGap {c : Char} (hgap : isGap c = true) (cs : List Char) :
    run initial (c :: cs) = (run initial cs).shift 1 := by
  have hstep : step initial c = initial.shift 1 := by
    simp only [step, stepReading, initial, begin, hgap, if_true]
    rfl
  rw [← run_shift, ← hstep]
  rfl

/-- White space in front of an object is that of JSON, and may be left out. -/
theorem exists_gaps_append_of_done {members : Record Json} {cs : List Char}
    (h : (run initial cs).Done members) :
    ∃ gaps, cs = gaps ++ cs.dropWhile Text.isBlank ∧ (∀ c ∈ gaps, isGap c = true) ∧
      (run initial (cs.dropWhile Text.isBlank)).Done members := by
  induction cs with
  | nil => exact ⟨[], rfl, nofun, h⟩
  | cons c cs ih =>
    cases hblank : Text.isBlank c with
    | false =>
      rw [List.dropWhile_cons_of_neg (by simp [hblank])]
      exact ⟨[], rfl, nofun, h⟩
    | true =>
      rw [List.dropWhile_cons_of_pos hblank]
      -- white space that JSON does not know would have failed the reader
      cases hgap : isGap c with
      | false =>
        obtain ⟨failure, hrun⟩ := exists_run_of_foreign (isForeign_of_isBlank hblank hgap) cs
        exact (not_done_failed _ (hrun ▸ h)).elim
      | true =>
        obtain ⟨gaps, hcs, hgaps, hdone⟩ := ih (done_shift.mp (run_cons_of_isGap hgap cs ▸ h))
        exact ⟨c :: gaps, congrArg (c :: ·) hcs, List.forall_mem_cons.mpr ⟨hgap, hgaps⟩, hdone⟩

end Reader

open Reader

variable {cs : List Char} {members : Record Json}

/-- A text is an object if the reader has read one at its end. -/
theorem parse_eq_ok_obj_iff : parse cs = .ok (.obj members) ↔ (run initial cs).Done members := by
  unfold parse
  split
  · rename_i hmark
    -- a byte order mark is refused by the reader as well
    obtain ⟨rest, rfl⟩ := List.head?_eq_some_iff.mp hmark
    have hmarkForeign : isForeign '\ufeff' = true := by decide
    obtain ⟨failure, hrun⟩ := exists_run_of_foreign hmarkForeign rest
    rw [hrun]
    exact ⟨nofun, fun h => (not_done_failed _ h).elim⟩
  · unfold readValue
    constructor
    · intro h
      split at h
      · rename_i hvalue
        obtain rfl := Except.ok.inj h
        exact done_of_finish hvalue
      · cases h
    · intro h
      rw [finish_of_done h]

/-- The white space of JSON is white space. -/
theorem isBlank_of_isGap {c : Char} (h : isGap c = true) : Text.isBlank c = true := by
  simp only [isGap, Bool.or_eq_true, beq_iff_eq] at h
  rcases h with ((rfl | rfl) | rfl) | rfl <;> decide

/-- White space in front of the text of an object may be left out. -/
theorem exists_gaps_append (h : parse cs = .ok (.obj members)) :
    ∃ gaps, cs = gaps ++ cs.dropWhile Text.isBlank ∧ (∀ c ∈ gaps, isGap c = true) ∧
      parse (cs.dropWhile Text.isBlank) = .ok (.obj members) := by
  simp only [parse_eq_ok_obj_iff] at h ⊢
  exact exists_gaps_append_of_done h

/-- White space behind the text of an object may be left out; before it stands the brace. -/
theorem exists_append_gaps (h : parse cs = .ok (.obj members)) :
    ∃ gaps, cs = Text.dropEndWhile Text.isBlank cs ++ gaps ∧ (∀ c ∈ gaps, isGap c = true) ∧
      (Text.dropEndWhile Text.isBlank cs).getLast? = some '}' ∧
      parse (Text.dropEndWhile Text.isBlank cs) = .ok (.obj members) := by
  simp only [parse_eq_ok_obj_iff] at h ⊢
  obtain ⟨core, gaps, rfl, hgaps, hlast, hcore⟩ := exists_append_of_done h
  have hdrop : Text.dropEndWhile Text.isBlank (core ++ gaps) = core := by
    rw [Text.dropEndWhile_append fun c hc => isBlank_of_isGap (hgaps c hc),
      Text.dropEndWhile_of_getLast? hlast (by decide)]
  rw [hdrop]
  exact ⟨gaps, rfl, hgaps, hlast, hcore⟩

/-- The text of an object, trimmed, is a text of that object, and ends with its brace. -/
theorem parse_trim (h : parse cs = .ok (.obj members)) :
    parse (Text.trim cs) = .ok (.obj members) ∧ (Text.trim cs).getLast? = some '}' := by
  obtain ⟨-, -, -, hfront⟩ := exists_gaps_append h
  obtain ⟨-, -, -, hlast, hback⟩ := exists_append_gaps hfront
  exact ⟨hback, hlast⟩

/-- The text of an object does not begin with a bracket, nor with a character that begins no value. -/
theorem head?_ne_of_parse (h : parse cs = .ok (.obj members)) :
    cs.head? ≠ some '[' ∧ cs.head? ≠ some '\x60' := by
  rw [parse_eq_ok_obj_iff] at h
  cases cs with
  | nil => exact ⟨nofun, nofun⟩
  | cons c cs =>
    simp only [List.head?_cons, ne_eq, Option.some.injEq]
    constructor
    · rintro rfl
      exact not_done_bracket cs h
    · rintro rfl
      have hfail : run initial ('\x60' :: cs) = .failed (.malformed .value 0) := run_failed _ cs
      exact not_done_failed _ (hfail ▸ h)

/-! ## Integers that are too long -/

/-- Digits go on with an integer that does not begin with a zero. -/
theorem Reader.run_digits {offset : Nat} {stack : List Frame} {expect : Expect} {negative : Bool}
    {before digits : List Char} (hbefore : before ≠ [] ∧ before ≠ ['0'])
    (hdigits : ∀ c ∈ digits, isDigit c = true) :
    run (.reading offset stack expect (.whole negative before)) digits =
      .reading (offset + digits.length) stack expect (.whole negative (digits.reverse ++ before)) := by
  induction digits generalizing offset before with
  | nil => rfl
  | cons c digits ih =>
    obtain ⟨hc, hrest⟩ := List.forall_mem_cons.mp hdigits
    have hstep : step (.reading offset stack expect (.whole negative before)) c =
        .reading (offset + 1) stack expect (.whole negative (c :: before)) := by
      simp [step, stepReading, hc, hbefore.2]
    have hnext : c :: before ≠ [] ∧ c :: before ≠ ['0'] :=
      ⟨List.cons_ne_nil _ _, by simp [hbefore.1]⟩
    rw [run, List.foldl_cons, hstep, ← run, ih hnext hrest]
    simp [Nat.add_assoc, Nat.add_comm 1]

theorem Reader.step_initial_of_isDigit {c : Char} (hc : isDigit c = true) :
    step initial c = .reading 1 [] .value (.whole false [c]) := by
  have hgap : isGap c = false := by
    rw [Bool.eq_false_iff]
    simp only [isGap, ne_eq, Bool.or_eq_true, beq_iff_eq]
    rintro (((rfl | rfl) | rfl) | rfl) <;> cases hc
  simp only [step, stepReading, initial, begin, hgap, Bool.false_eq_true, if_false]
  unfold beginValue
  split
  case h_10 => rw [if_pos hc]
  all_goals cases hc

/-- An integer of more digits than the limit is JSON, but is not read. -/
theorem parse_overlong {c : Char} {digits : List Char} (hc : isDigit c = true) (hzero : c ≠ '0')
    (hdigits : ∀ d ∈ digits, isDigit d = true) (hlong : TooManyDigits.limit < (c :: digits).length) :
    parse (c :: digits) = .error (.digits ⟨(c :: digits).length⟩) := by
  have hmark : (c :: digits).head? ≠ some '\ufeff' := by
    intro h
    obtain rfl : c = '\ufeff' := Option.some.inj h
    cases hc
  have hbefore : [c] ≠ [] ∧ [c] ≠ ['0'] := ⟨nofun, by simpa using hzero⟩
  have hinteger : Numeral.integer false (c :: digits) = .error ⟨(c :: digits).length⟩ :=
    (Numeral.integer_eq_error_iff ..).mpr ⟨hlong, rfl⟩
  have hrun : run initial (c :: digits) =
      .reading (1 + digits.length) [] .value (.whole false (digits.reverse ++ [c])) := by
    rw [← run_digits hbefore hdigits, ← step_initial_of_isDigit hc]
    rfl
  rw [parse, if_neg hmark, readValue, hrun]
  simp [finish, acceptNumber, numberValue, hinteger, Except.map, State.result, Failure.locate]

theorem parse_ones {n : Nat} (h : TooManyDigits.limit < n) :
    parse (List.replicate n '1') = .error (.digits ⟨n⟩) := by
  cases n with
  | zero => cases h
  | succ n =>
    have hones : ∀ d ∈ List.replicate n '1', isDigit d = true := by
      intro d hd
      rw [List.eq_of_mem_replicate hd]
      decide
    have hparse := parse_overlong (by decide : isDigit '1' = true) (by decide) hones (by simpa using h)
    simpa [List.replicate_succ] using hparse

end Json

end UiSurface
