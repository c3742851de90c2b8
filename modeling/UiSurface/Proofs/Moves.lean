import UiSurface.Json.Reader

/-!
# Moves — what one character does to the reader

A character is refused, or it makes one of a few moves: white space changes nothing, a token goes on,
something else is expected, a container is opened, takes a name, is given a value, or ends.  A number ends
only behind itself, so there its value is given first, and then the character moves.  The reader looks at
the innermost container alone, so it moves alike whatever lies below.

What holds all along a text is shown by going through the moves.

Main lemmas: `begin_moves` and `step_reads` (every character is refused or moves), `Kept.step` and
`Kept.run` (what moves keep, a text keeps), `finish_eq_ok` (what a text may end with).
-/

namespace UiSurface.Json.Reader

/-! ## States that occur -/

/-- A value that a single token stands for. -/
inductive Scalar : Json → Prop
  | null : Scalar .null
  | bool (b : Bool) : Scalar (.bool b)
  | str (s : String) : Scalar (.str s)
  | float (x : Binary64) : Scalar (.num (.float x))
  | integer {negative : Bool} {digits : List Char} {n : Int}
      (h : Numeral.integer negative digits = .ok n) : Scalar (.num (.int n))

/-- Something may come yet. -/
def Expect.IsOpen : Expect → Prop
  | nothing _ => False
  | value | firstItem | key | firstKey | colon | separator => True

/-- What is expected goes with the innermost container. -/
def Expect.Suits : Expect → List Frame → Prop
  | value, _ | colon, _ => True
  | firstItem, .array [] :: _ => True
  | firstKey, .object [] :: _ => True
  | key, .object _ :: _ => True
  | separator, .array _ :: _ | separator, .object _ :: _ => True
  | nothing _, [] => True
  | _, _ => False

/-- A literal in the making stands for a scalar, and letters are still to come. -/
def Partial.Plain : Partial → Prop
  | literal _ rest value => (∀ c ∈ rest, c.isAlpha = true) ∧ Scalar value
  | _ => True

/-- A state that the reader can come to: after the last value there is no token. -/
def State.Proper : State → Prop
  | reading _ stack expect token =>
    expect.Suits stack ∧ token.Plain ∧ (token = .between ∨ expect.IsOpen)
  | failed _ => True

/-! ## Moves -/

/-- What a character may do to a state. -/
inductive Move where
  /-- nothing -/
  | gap
  /-- a token begins, goes on, or turns into another -/
  | token (token : Partial)
  /-- something else is expected -/
  | pass (expect : Expect)
  /-- a container is opened -/
  | enter (frame : Frame) (expect : Expect)
  /-- the innermost object has a name for its next member -/
  | name (done : Record Json) (key : String)
  /-- a token ends with its value -/
  | give (value : Json)
  /-- the innermost container ends, with this value -/
  | leave (value : Json)

/-- The state behind a move, at the place that the reader has come to. -/
def Move.perform (place : Nat) (stack : List Frame) (expect : Expect) : Move → State
  | gap => .reading place stack expect .between
  | token next => .reading place stack expect next
  | pass next => .reading place stack next .between
  | enter frame next => .reading place (frame :: stack) next .between
  | name done key => .reading place (.member done key :: stack.tail) .colon .between
  | give value => accept place stack value
  | leave value => accept place stack.tail value

/-- Which moves a character can make, by the containers that are open and what is expected. -/
inductive Fits (c : Char) : List Frame → Expect → Move → Prop
  | gap {stack : List Frame} {expect : Expect} (h : isGap c = true) : Fits c stack expect .gap
  | token {stack : List Frame} {expect : Expect} {token : Partial} (hopen : expect.IsOpen)
      (hplain : token.Plain) (hne : token ≠ .between) : Fits c stack expect (.token token)
  | pass {stack : List Frame} {expect next : Expect} (hopen : expect.IsOpen) (hnext : next.IsOpen)
      (hsuits : next.Suits stack) : Fits c stack expect (.pass next)
  | array {stack : List Frame} {expect : Expect} (hopen : expect.IsOpen) :
      Fits c stack expect (.enter (.array []) .firstItem)
  | object {stack : List Frame} {expect : Expect} (hopen : expect.IsOpen) :
      Fits c stack expect (.enter (.object []) .firstKey)
  | name {stack : List Frame} {expect : Expect} {done : Record Json} (key : String) :
      Fits c (.object done :: stack) expect (.name done key)
  | give {stack : List Frame} {expect : Expect} {value : Json} (hopen : expect.IsOpen)
      (h : Scalar value) : Fits c stack expect (.give value)
  | closeArray {stack : List Frame} {expect : Expect} (items : List Json) :
      Fits c (.array items :: stack) expect (.leave (.arr items.reverse))
  | closeObject {stack : List Frame} {expect : Expect} {done : Record Json} (h : c = '}') :
      Fits c (.object done :: stack) expect (.leave (.obj done))

/-- What comes of a character, with nothing and with `below` under the open containers: it is refused, or
moves alike. -/
inductive Moves (c : Char) (place : Nat) (stack below : List Frame) (expect : Expect) (s t : State) :
    Prop
  /-- what cannot be read with nothing below is not looked at otherwise -/
  | refused {failure : Failure} (hs : s = .failed failure)
  | moved {move : Move} (h : Fits c stack expect move) (hs : s = move.perform place stack expect)
      (ht : t = move.perform place (stack ++ below) expect)

variable {offset place : Nat} {stack below : List Frame} {expect next : Expect} {c : Char}

theorem Moves.token {token : Partial} (hopen : expect.IsOpen) (hplain : token.Plain) (hne : token ≠ .between) :
    Moves c place stack below expect (.reading place stack expect token)
      (.reading place (stack ++ below) expect token) :=
  .moved (.token hopen hplain hne) rfl rfl

theorem Moves.pass (hopen : expect.IsOpen) (hnext : next.IsOpen) (hsuits : next.Suits stack) :
    Moves c place stack below expect (.reading place stack next .between)
      (.reading place (stack ++ below) next .between) :=
  .moved (.pass hopen hnext hsuits) rfl rfl

theorem Moves.give {value : Json} (hopen : expect.IsOpen) (h : Scalar value) :
    Moves c place stack below expect (accept place stack value)
      (accept place (stack ++ below) value) :=
  .moved (.give hopen h) rfl rfl

/-- A character that begins a value, alone or with containers below. -/
theorem beginValue_moves (hopen : expect.IsOpen) (c : Char) (below : List Frame) :
    Moves c (offset + 1) stack below expect (beginValue offset stack expect c)
      (beginValue offset (stack ++ below) expect c) := by
  -- a literal is a run of letters that stands for a scalar
  have hliteral {rest : List Char} {value : Json} (hrest : (rest.all Char.isAlpha) = true)
      (hvalue : Scalar value) :
      Moves c (offset + 1) stack below expect
        (.reading (offset + 1) stack expect (.literal offset rest value))
        (.reading (offset + 1) (stack ++ below) expect (.literal offset rest value)) :=
    .token hopen ⟨List.all_eq_true.mp hrest, hvalue⟩ nofun
  unfold beginValue
  split
  · exact .token hopen trivial nofun
  · exact .moved (.object hopen) rfl rfl
  · exact .moved (.array hopen) rfl rfl
  · exact hliteral rfl .null
  · exact hliteral rfl (.bool true)
  · exact hliteral rfl (.bool false)
  · exact hliteral rfl (.float _)
  · exact hliteral rfl (.float _)
  · exact .token hopen trivial nofun
  · split
    · exact .token hopen trivial nofun
    · exact .refused rfl

/-- Between tokens, a character is refused or moves. -/
theorem begin_moves (hsuits : expect.Suits stack) (c : Char) (below : List Frame) :
    Moves c (offset + 1) stack below expect (begin offset stack expect c)
      (begin offset (stack ++ below) expect c) := by
  unfold begin
  split
  · rename_i hgap
    exact .moved (.gap hgap) rfl rfl
  · -- one case for what the reader waits for; the frame on top is the one that suits it
    cases expect with
    | nothing result => exact .refused rfl
    | value =>
      have hopen : Expect.value.IsOpen := trivial
      exact beginValue_moves hopen c below
    | colon =>
      dsimp only
      split
      · exact .pass trivial trivial trivial
      · exact .refused rfl
    | firstItem =>
      match stack, hsuits with
      | .array [] :: rest, _ =>
        dsimp only [List.cons_append]
        split
        · exact .moved (.closeArray []) rfl rfl
        · have hopen : Expect.firstItem.IsOpen := trivial
          exact beginValue_moves hopen c below
    | firstKey =>
      match stack, hsuits with
      | .object [] :: rest, _ =>
        dsimp only [List.cons_append]
        split
        · rename_i hbrace
          exact .moved (.closeObject hbrace) rfl rfl
        · split
          · exact .token trivial trivial nofun
          · exact .refused rfl
    | key =>
      dsimp only
      split
      · exact .token trivial trivial nofun
      · exact .refused rfl
    | separator =>
      match stack, hsuits with
      | .array done :: rest, _ =>
        dsimp only [List.cons_append]
        split
        · exact .pass trivial trivial trivial
        · split
          · exact .moved (.closeArray done) rfl rfl
          · exact .refused rfl
      | .object done :: rest, _ =>
        dsimp only [List.cons_append]
        split
        · exact .pass trivial trivial trivial
        · split
          · rename_i hbrace
            exact .moved (.closeObject hbrace) rfl rfl
          · exact .refused rfl

/-- A string ends as the name of a member, or as a value. -/
theorem closeString_moves (hsuits : expect.Suits stack) (hopen : expect.IsOpen) (chars : List Char)
    (c : Char) (below : List Frame) :
    Moves c place stack below expect (closeString place stack expect chars)
      (closeString place (stack ++ below) expect chars) := by
  cases expect with
  | key =>
    match stack, hsuits with
    | .object done :: rest, _ => exact .moved (.name _) rfl rfl
  | firstKey =>
    match stack, hsuits with
    | .object [] :: rest, _ => exact .moved (.name _) rfl rfl
  | value | firstItem | colon | separator => exact .give hopen (.str _)
  | nothing result => cases hopen

theorem exists_reject (place : Nat) (s : State) : ∃ failure, s.reject place = .failed failure := by
  cases s <;> exact ⟨_, rfl⟩

theorem reject_moves (place place' : Nat) (s t : State) :
    Moves c place stack below expect (s.reject place') t := by
  obtain ⟨failure, hfailure⟩ := exists_reject place' s
  exact .refused hfailure

/-- A number is given, or it is an integer that is too long. -/
theorem acceptNumber_cases (negative : Bool) (whole fraction : List Char) (exponentNegative : Bool)
    (exponent : List Char) :
    (∃ value, Scalar value ∧ ∀ offset stack,
      acceptNumber offset stack negative whole fraction exponentNegative exponent =
        accept offset stack value) ∨
    ∃ failure, ∀ offset stack,
      acceptNumber offset stack negative whole fraction exponentNegative exponent =
        .failed failure := by
  unfold acceptNumber
  cases hvalue : numberValue negative whole fraction exponentNegative exponent with
  | error fault => exact .inr ⟨_, fun _ _ => rfl⟩
  | ok value =>
    refine .inl ⟨value, ?_, fun _ _ => rfl⟩
    unfold numberValue at hvalue
    split at hvalue
    · cases hinteger : Numeral.integer negative whole.reverse with
      | error fault =>
        rw [hinteger] at hvalue
        cases hvalue
      | ok n =>
        rw [hinteger] at hvalue
        obtain rfl := Except.ok.inj hvalue
        exact .integer hinteger
    · obtain rfl := Except.ok.inj hvalue
      exact .float _

/-- What comes of a character, be it in the middle of a token. -/
inductive Reads (c : Char) (offset : Nat) (stack below : List Frame) (expect : Expect) (s t : State) :
    Prop
  | moves (h : Moves c (offset + 1) stack below expect s t)
  /-- a number has ended, and the character comes behind its value -/
  | behind {value : Json} (hopen : expect.IsOpen) (h : Scalar value)
      (hs : s = (accept offset stack value).resume c)
      (ht : t = (accept offset (stack ++ below) value).resume c)

theorem Reads.refused {failure : Failure} {s t : State} (hs : s = .failed failure) :
    Reads c offset stack below expect s t := .moves (.refused hs)

theorem Reads.token {token : Partial} (hopen : expect.IsOpen) (hplain : token.Plain)
    (hne : token ≠ .between) :
    Reads c offset stack below expect (.reading (offset + 1) stack expect token)
      (.reading (offset + 1) (stack ++ below) expect token) := .moves (.token hopen hplain hne)

/-- Behind a number, its value is given first. -/
theorem resume_reads (hopen : expect.IsOpen) (negative : Bool) (whole fraction : List Char)
    (exponentNegative : Bool) (exponent : List Char) (c : Char) (below : List Frame) :
    Reads c offset stack below expect
      ((acceptNumber offset stack negative whole fraction exponentNegative exponent).resume c)
      ((acceptNumber offset (stack ++ below) negative whole fraction exponentNegative
        exponent).resume c) := by
  rcases acceptNumber_cases negative whole fraction exponentNegative exponent with
    ⟨value, hvalue, haccept⟩ | ⟨failure, hfailure⟩
  · rw [haccept, haccept]
    exact .behind hopen hvalue rfl rfl
  · rw [hfailure]
    exact .refused rfl

/-- Every character is refused or moves, if not behind a number. -/
theorem step_reads {token : Partial} (hs : (State.reading offset stack expect token).Proper)
    (c : Char) (below : List Frame) :
    Reads c offset stack below expect (step (.reading offset stack expect token) c)
      (step (.reading offset (stack ++ below) expect token) c) := by
  obtain ⟨hsuits, hplain, htoken⟩ := hs
  -- one case for each token; none is begun but where a value or a key may stand
  cases token with
  | between => exact .moves (begin_moves hsuits c below)
  | literal start rest value =>
    have hopen : expect.IsOpen := htoken.resolve_left nofun
    obtain ⟨hrest, hvalue⟩ := hplain
    simp only [step, stepReading]
    cases rest with
    | nil => exact .refused rfl
    | cons r rest =>
      dsimp only
      split
      · split
        · exact .moves (.give hopen hvalue)
        · exact .token hopen ⟨fun d hd => hrest d (List.mem_cons_of_mem r hd), hvalue⟩ nofun
      · exact .refused rfl
  | minus start =>
    have hopen : expect.IsOpen := htoken.resolve_left nofun
    simp only [step, stepReading]
    split
    · exact .token hopen trivial nofun
    · split
      · exact .token hopen ⟨List.all_eq_true.mp rfl, .float _⟩ nofun
      · exact .refused rfl
  | whole | fraction | exponent =>
    have hopen : expect.IsOpen := htoken.resolve_left nofun
    simp only [step, stepReading]
    repeat' split
    all_goals first
      | exact .token hopen trivial nofun
      | exact resume_reads hopen _ _ _ _ _ c below
  | point | mark =>
    have hopen : expect.IsOpen := htoken.resolve_left nofun
    simp only [step, stepReading]
    repeat' split
    all_goals first
      | exact .token hopen trivial nofun
      | exact .moves (reject_moves _ _ _ _)
  | string start chars high escaped =>
    have hopen : expect.IsOpen := htoken.resolve_left nofun
    simp only [step, stepReading]
    split
    · exact .moves (closeString_moves hsuits hopen _ c below)
    · split
      · exact .token hopen trivial nofun
      · split
        · exact .refused rfl
        · exact .token hopen trivial nofun
  | escape | unicode =>
    have hopen : expect.IsOpen := htoken.resolve_left nofun
    simp only [step, stepReading]
    repeat' split
    all_goals first
      | exact .token hopen trivial nofun
      | exact .refused rfl

/-! ## What moves keep -/

/-- What is true of texts that are refused, and is kept by all moves. -/
structure Kept (Q : State → Prop) : Prop where
  failed (failure : Failure) : Q (.failed failure)
  move {c : Char} {offset place : Nat} {stack : List Frame} {expect : Expect} {token : Partial}
    {move : Move} (hs : Q (.reading offset stack expect token)) (h : Fits c stack expect move) :
    Q (move.perform place stack expect)

/-- Where a value has been given, the state is proper. -/
theorem proper_accept (offset : Nat) (stack : List Frame) (value : Json) :
    (accept offset stack value).Proper := by
  rcases stack with _ | ⟨frame | frame | frame, rest⟩ <;> exact ⟨trivial, trivial, .inl rfl⟩

/-- All moves lead to proper states. -/
theorem kept_proper : Kept State.Proper where
  failed _ := trivial
  move hs h := by
    cases h with
    | gap => exact ⟨hs.1, trivial, .inl rfl⟩
    | token hopen hplain => exact ⟨hs.1, hplain, .inr hopen⟩
    | pass hopen hnext hsuits => exact ⟨hsuits, trivial, .inl rfl⟩
    | array | object | name => exact ⟨trivial, trivial, .inl rfl⟩
    | give | closeArray | closeObject => exact proper_accept _ _ _

variable {Q : State → Prop} {s : State}

/-- What all moves keep is kept by a character between tokens. -/
theorem Kept.begin (hQ : Kept Q) (hsuits : expect.Suits stack) {token : Partial}
    (h : Q (.reading offset stack expect token)) (c : Char) : Q (begin offset stack expect c) := by
  rcases begin_moves hsuits c [] with hfailed | ⟨hfits, hmoved, -⟩
  · rw [hfailed]
    exact hQ.failed _
  · rw [hmoved]
    exact hQ.move h hfits

theorem Kept.step (hQ : Kept Q) (hs : s.Proper) (h : Q s) (c : Char) : Q (step s c) := by
  cases s with
  | failed failure => exact h
  | reading offset stack expect token =>
    rcases step_reads hs c [] with (hfailed | ⟨hfits, hmoved, -⟩) | ⟨hopen, hvalue, hbehind, -⟩
    · rw [hfailed]
      exact hQ.failed _
    · rw [hmoved]
      exact hQ.move h hfits
    · have hgive : Fits c stack expect (.give _) := .give hopen hvalue
      have hgiven : Q (accept offset stack _) := hQ.move h hgive
      rw [hbehind]
      exact hQ.begin (proper_accept offset stack _).1 hgiven c

/-- What moves keep, a text keeps. -/
theorem Kept.run (hQ : Kept Q) (hs : s.Proper) (h : Q s) (cs : List Char) : Q (run s cs) := by
  induction cs generalizing s with
  | nil => exact h
  | cons c cs ih => exact ih (kept_proper.step hs hs c) (hQ.step hs h c)

theorem proper_initial : initial.Proper := ⟨trivial, trivial, .inl rfl⟩

theorem proper_run (cs : List Char) : (run initial cs).Proper :=
  kept_proper.run proper_initial proper_initial cs

/-! ## The end of a text -/

/-- A text ends with a value only if no container is open. -/
theorem eq_of_result_accept {value result : Json}
    (h : (accept offset stack value).result = .ok result) : result = value := by
  rcases stack with _ | ⟨frame | frame | frame, rest⟩
  case nil => exact (Except.ok.inj h).symm
  all_goals cases h

/-- A text ends with a value if it has been read, or with a number that ends there. -/
theorem finish_eq_ok {value : Json} (h : finish s = .ok value) :
    (∃ offset stack, s = .reading offset stack (.nothing value) .between) ∨ Scalar value := by
  cases s with
  | failed failure => cases h
  | reading offset stack expect token =>
    -- a text may end within a number, which is then a scalar
    have hnumber {negative exponentNegative : Bool} {whole fraction exponent : List Char}
        (h : (acceptNumber offset stack negative whole fraction exponentNegative exponent).result =
          .ok value) : Scalar value := by
      rcases acceptNumber_cases negative whole fraction exponentNegative exponent with
        ⟨number, hnumber, haccept⟩ | ⟨failure, hfailure⟩
      · rw [haccept] at h
        rwa [eq_of_result_accept h]
      · rw [hfailure] at h
        cases h
    have hreject {place : Nat} {t : State} : (t.reject place).result ≠ .ok value := by
      obtain ⟨failure, hfailure⟩ := exists_reject place t
      rw [hfailure]
      exact nofun
    cases token with
    | between =>
      cases expect with
      | nothing result =>
        obtain rfl := Except.ok.inj h
        exact .inl ⟨offset, stack, rfl⟩
      | value | firstItem | key | firstKey | colon | separator => cases h
    | whole | fraction | exponent => exact .inr (hnumber h)
    | point | mark => exact absurd h hreject
    | literal | minus | escape | unicode => cases h
    | string start chars high escaped => cases escaped <;> cases h

end UiSurface.Json.Reader
