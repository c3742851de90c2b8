import UiSurface.Proofs.Hereditary
import UiSurface.Proofs.Moves

/-!
# Properties of all values that are read

What the reader makes are scalars, arrays of values that it has made, and objects into which it writes
such values one by one.  So a property that goes up from parts to wholes in this way holds of all values
in a state of the reader, and of whatever is read from a text.

Main lemmas: `Reader.kept_holds` (what a character may do keeps the property), `Readable.of_ofText`,
`Reader.run_string_plain` (a string of any length).
-/

namespace UiSurface.Json

/-- A hereditary property that the reader gives to all values: the scalars have it that a text can hold,
and arrays have it if their items do. -/
structure Readable (P : Json → Prop) : Prop extends Hereditary P where
  null : P .null
  bool : ∀ b, P (.bool b)
  str : ∀ s, P (.str s)
  float : ∀ x, P (.num (.float x))
  integer : ∀ {negative : Bool} {digits : List Char} {n : Int},
    Numeral.integer negative digits = .ok n → P (.num (.int n))
  arr : ∀ {items : List Json}, (∀ v ∈ items, P v) → P (.arr items)

namespace Reader

/-- The values in an open container have a property. -/
def Frame.Holds (P : Json → Prop) : Frame → Prop
  | array done => ∀ v ∈ done, P v
  | object done | member done _ => P (.obj done)

/-- The value that was read, if nothing more may come, has a property. -/
def Expect.Holds (P : Json → Prop) : Expect → Prop
  | nothing result => P result
  | value | firstItem | key | firstKey | colon | separator => True

/-- All values in a state have a property.  A token is of none but scalars. -/
def State.Holds (P : Json → Prop) : State → Prop
  | reading _ stack expect _ => (∀ f ∈ stack, f.Holds P) ∧ expect.Holds P
  | failed _ => True

variable {P : Json → Prop} {offset : Nat} {stack : List Frame} {expect : Expect}

/-- Where something may come yet, nothing has been read. -/
theorem Expect.IsOpen.holds (h : expect.IsOpen) : expect.Holds P := by
  cases expect with
  | nothing result => cases h
  | value | firstItem | key | firstKey | colon | separator => trivial

section

variable (hP : Readable P)

include hP

/-- Scalars have the property. -/
theorem Scalar.holds {value : Json} (h : Scalar value) : P value := by
  cases h with
  | null => exact hP.null
  | bool b => exact hP.bool b
  | str s => exact hP.str s
  | float x => exact hP.float x
  | integer h => exact hP.integer h

/-- A finished value goes into the innermost container, or is the result. -/
theorem holds_accept (hstack : ∀ f ∈ stack, f.Holds P) {value : Json}
    (hvalue : P value) : (accept offset stack value).Holds P := by
  cases stack with
  | nil => exact ⟨nofun, hvalue⟩
  | cons frame rest =>
    obtain ⟨hframe, hrest⟩ := List.forall_mem_cons.mp hstack
    cases frame with
    | array done =>
      have hdone : (Frame.array (value :: done)).Holds P := List.forall_mem_cons.mpr ⟨hvalue, hframe⟩
      exact ⟨List.forall_mem_cons.mpr ⟨hdone, hrest⟩, trivial⟩
    | object done => exact ⟨hstack, trivial⟩
    | member done key =>
      have hdone : (Frame.object (Record.put done key value)).Holds P :=
        hP.put hframe hvalue
      exact ⟨List.forall_mem_cons.mpr ⟨hdone, hrest⟩, trivial⟩

/-- Every move keeps the property: a container that is opened is empty, and one that ends has the property
as a value. -/
theorem kept_holds : Kept (State.Holds P) where
  failed _ := trivial
  move hs h := by
    obtain ⟨hstack, hexpect⟩ := hs
    -- one case for each move of the reader; a value is put where it was open for one
    cases h with
    | gap | token => exact ⟨hstack, hexpect⟩
    | pass hopen hnext => exact ⟨hstack, hnext.holds⟩
    | array =>
      have hempty : (Frame.array []).Holds P := nofun
      exact ⟨List.forall_mem_cons.mpr ⟨hempty, hstack⟩, trivial⟩
    | object =>
      have hempty : (Frame.object []).Holds P := hP.empty
      exact ⟨List.forall_mem_cons.mpr ⟨hempty, hstack⟩, trivial⟩
    | name key =>
      obtain ⟨hdone, hrest⟩ := List.forall_mem_cons.mp hstack
      exact ⟨List.forall_mem_cons.mpr ⟨hdone, hrest⟩, trivial⟩
    | give hopen hvalue => exact holds_accept hP hstack (hvalue.holds hP)
    | closeArray items =>
      obtain ⟨hitems, hrest⟩ := List.forall_mem_cons.mp hstack
      exact holds_accept hP hrest (hP.arr fun v hv => hitems v (List.mem_reverse.mp hv))
    | closeObject =>
      obtain ⟨hdone, hrest⟩ := List.forall_mem_cons.mp hstack
      exact holds_accept hP hrest hdone

/-- The end of a text makes no other value than the state holds. -/
theorem holds_of_finish {s : State} (hs : s.Holds P) {value : Json}
    (h : finish s = .ok value) : P value := by
  rcases finish_eq_ok h with ⟨offset, stack, rfl⟩ | hscalar
  · exact hs.2
  · exact hscalar.holds hP

end

/-- The plain characters of a string are taken as they are. -/
theorem run_string_plain {start : Nat} {chars cs : List Char}
    (h : ∀ c ∈ cs, c ≠ '"' ∧ c ≠ '\\' ∧ 0x1F < c.toNat) :
    run (.reading offset stack expect (.string start chars none none)) cs =
      .reading (offset + cs.length) stack expect (.string start (cs.reverse ++ chars) none none) := by
  induction cs generalizing offset chars with
  | nil => rfl
  | cons c cs ih =>
    obtain ⟨⟨hquote, hslash, hcontrol⟩, hrest⟩ := List.forall_mem_cons.mp h
    have hstep : step (.reading offset stack expect (.string start chars none none)) c =
        .reading (offset + 1) stack expect (.string start (c :: chars) none none) := by
      simp [step, stepReading, settle, hquote, hslash, Nat.not_le.mpr hcontrol]
    rw [run, List.foldl_cons, hstep]
    refine (ih hrest).trans ?_
    simp [Nat.add_assoc, Nat.add_comm 1]

end Reader

/-- What is read from a text has the property. -/
theorem Readable.of_ofText {P : Json → Prop} (hP : Readable P) {text : String} {value : Json}
    (h : ofText text = .ok value) : P value := by
  have hinitial : Reader.initial.Holds P := ⟨nofun, trivial⟩
  have hrun := (Reader.kept_holds hP).run Reader.proper_initial hinitial text.toList
  unfold ofText parse at h
  split at h
  · cases h
  · unfold readValue at h
    split at h
    · rename_i result hresult
      obtain rfl := Except.ok.inj h
      exact Reader.holds_of_finish hP hrun hresult
    · cases h

end UiSurface.Json
