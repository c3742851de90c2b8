import Mathlib.Data.List.Forall2
import UiSurface.Proofs.Chunks
import UiSurface.Proofs.ObjectTexts

/-!
# Skipping — what a line costs the others

A stream passes over a line that holds no object.  The one exception is a line that holds an integer with
too many digits: the call that reads it is broken off, and with it go the envelopes of the lines that this
call has read before.  The lines behind it stay in the buffer, and the next call reads them.

So every line is read by one call, or is left for later, whatever the other lines hold.  Unless a line is
overlong, the calls give what the lines hold, in order.

Main lemmas: `readLine_eq_ok_iff` and `readLine_eq_error_iff` (a line by its value), `feed_gives` (the lines
that a call reads), `feedEach_gives` (the lines that all calls read), `only_overlong_lines_cost_others`.
-/

namespace UiSurface

namespace Text

variable {α : Type} [DecidableEq α]

theorem not_mem_of_mem_splitAt {sep : α} {as piece : List α} (h : piece ∈ splitAt sep as) :
    sep ∉ piece := by
  -- a piece ends where the separator stands, which is left out
  induction as generalizing piece with
  | nil =>
    obtain rfl := List.mem_singleton.mp h
    exact List.not_mem_nil
  | cons a as ih =>
    unfold splitAt at h
    split at h
    · rcases List.mem_cons.mp h with rfl | h
      · exact List.not_mem_nil
      · exact ih h
    · rename_i ha
      split at h
      · rw [List.mem_singleton.mp h, List.mem_singleton]
        exact Ne.symm ha
      · rename_i first pieces hpieces
        rw [hpieces, List.forall_mem_cons] at ih
        rcases List.mem_cons.mp h with rfl | h
        · simpa [Ne.symm ha] using ih.1
        · exact ih.2 piece h

/-- If the pieces of one text end with the pieces of another, they still do when both go on alike. -/
theorem splitAt_append_of_eq {sep : α} {as bs : List α} {front : List (List α)}
    (h : splitAt sep as = front ++ splitAt sep bs) (more : List α) :
    splitAt sep (as ++ more) = front ++ splitAt sep (bs ++ more) := by
  obtain ⟨before, has, hmore⟩ := splitAt_rest_append sep as
  obtain ⟨before', hbs, hmore'⟩ := splitAt_rest_append sep bs
  rw [has, hbs, ← List.append_assoc] at h
  obtain ⟨rfl, hrest⟩ := List.append_inj' h rfl
  rw [hmore, hmore', List.singleton_inj.mp hrest, List.append_assoc]

theorem dropEndWhile_cons {p : Char → Bool} {c : Char} (hc : p c = false) (cs : List Char) :
    dropEndWhile p (c :: cs) = c :: dropEndWhile p cs := by
  rw [dropEndWhile, List.reverse_cons, List.dropWhile_append]
  split
  · rename_i hempty
    rw [dropEndWhile, List.isEmpty_iff.mp hempty]
    simp [hc]
  · simp [dropEndWhile]

end Text

namespace LineStream

/-! ## Lines -/

/-- The value that stands in a line: without white space around it, and without the commas behind it. -/
def valueOf (line : List Char) : List Char := Text.dropEndWhile (· == ',') (Text.trim line)

/-- A line holds an integer with too many digits. -/
def Overlong (line : List Char) (fault : TooManyDigits) : Prop :=
  Json.parse (valueOf line) = .error (.digits fault)

/-- The envelope in a line, if its value is an object. -/
def envelope? (line : List Char) : Option (Record Json) :=
  match Json.parse (valueOf line) with
  | .ok v => v.members?
  | .error _ => none

/-- What holds no value is malformed. -/
theorem exists_malformed_of_isFrame {line : List Char} (h : isFrame (Text.trim line) = true) :
    ∃ cause row column offset,
      Json.parse (valueOf line) = .error (.malformed cause row column offset) := by
  unfold valueOf
  generalize Text.trim line = cs at h
  simp only [isFrame, Bool.or_eq_true, List.isEmpty_iff, List.isPrefixOf_iff_prefix, beq_iff_eq] at h
  rcases h with ((rfl | ⟨more, rfl⟩) | rfl) | rfl
  · exact ⟨_, _, _, _, rfl⟩
  · -- commas are taken from the end, so the fence stays at the start
    have hdrop : Text.dropEndWhile (· == ',') (fence ++ more) =
        '\x60' :: Text.dropEndWhile (· == ',') ('\x60' :: '\x60' :: more) :=
      Text.dropEndWhile_cons (by decide) _
    rw [hdrop]
    have hrun (cs : List Char) : Json.Reader.run Json.Reader.initial ('\x60' :: cs) =
      .failed (.malformed .value 0) := Json.Reader.run_failed _ cs
    rw [Json.parse, if_neg (by simp), Json.readValue, hrun]
    exact ⟨_, _, _, _, rfl⟩
  · exact ⟨_, _, _, _, rfl⟩
  · exact ⟨_, _, _, _, rfl⟩

/-- A line is read by its value. -/
theorem readLine_eq (line : List Char) : readLine line =
    match Json.parse (valueOf line) with
    | .ok v => .ok v.members?
    | .error (.digits fault) => .error fault
    | .error (.malformed ..) => .ok none := by
  rw [readLine]
  split
  · rename_i hframe
    obtain ⟨cause, row, column, offset, hmalformed⟩ := exists_malformed_of_isFrame hframe
    rw [hmalformed]
  · rfl

/-- A line is read just if no integer in it is too long, and gives its envelope if it holds one. -/
theorem readLine_eq_ok_iff {line : List Char} {found : Option (Record Json)} :
    readLine line = .ok found ↔ (∀ fault, ¬ Overlong line fault) ∧ found = envelope? line := by
  rw [readLine_eq]
  unfold Overlong envelope?
  cases Json.parse (valueOf line) with
  | ok v => simp [eq_comm]
  | error fault => cases fault <;> simp [eq_comm]

/-- A line is a fault just if an integer in it is too long. -/
theorem readLine_eq_error_iff {line : List Char} {fault : TooManyDigits} :
    readLine line = .error fault ↔ Overlong line fault := by
  rw [readLine_eq]
  unfold Overlong
  cases Json.parse (valueOf line) with
  | ok v => simp
  | error fault => cases fault <;> simp

/-- A line that is the text of an object holds that object. -/
theorem valueOf_of_parse {line : List Char} {members : Record Json}
    (h : Json.parse line = .ok (.obj members)) : Json.parse (valueOf line) = .ok (.obj members) := by
  obtain ⟨htrim, hlast⟩ := Json.parse_trim h
  rw [valueOf, Text.dropEndWhile_of_getLast? hlast (by decide)]
  exact htrim

/-! ## Calls -/

/-- What a call gives that reads some lines: the envelopes in them; or the fault of the last one, and
nothing of the others. -/
inductive Gives : List (List Char) → Except TooManyDigits (List (Record Json)) → Prop
  | read {lines : List (List Char)} (hlines : ∀ line ∈ lines, ∀ fault, ¬ Overlong line fault) :
      Gives lines (.ok (lines.filterMap envelope?))
  | broken {lines : List (List Char)} {last : List Char} {fault : TooManyDigits}
      (hlines : ∀ line ∈ lines, ∀ fault, ¬ Overlong line fault) (hlast : Overlong last fault) :
      Gives (lines ++ [last]) (.error fault)

/-- An overlong line is the end of what a call gives. -/
theorem Gives.fault {line : List Char} {fault : TooManyDigits} (h : Overlong line fault) :
    Gives [line] (.error fault) :=
  .broken (List.forall_mem_nil _) h

/-- A line that is read comes before what the others give. -/
theorem Gives.cons {line : List Char} {lines : List (List Char)}
    {result : Except TooManyDigits (List (Record Json))} (hline : ∀ fault, ¬ Overlong line fault)
    (h : Gives lines result) :
    Gives (line :: lines) (result.map ((envelope? line).toList ++ ·)) := by
  cases h with
  | read hlines =>
    have hread := Gives.read (List.forall_mem_cons.mpr ⟨hline, hlines⟩)
    rw [List.filterMap_cons] at hread
    cases henvelope : envelope? line <;> rw [henvelope] at hread <;> exact hread
  | broken hlines hlast => exact .broken (List.forall_mem_cons.mpr ⟨hline, hlines⟩) hlast

/-- The pieces of a text are the lines that are read, and what is kept. -/
theorem readPieces_gives {pieces : List (List Char)} (hne : pieces ≠ []) :
    ∃ lines kept, pieces = lines ++ kept ∧ kept ≠ [] ∧
      (readPieces pieces).1.buffer = Text.joinWith '\n' kept ∧ Gives lines (readPieces pieces).2 ∧
      ∀ found, (readPieces pieces).2 = .ok found → ∃ last, kept = [last] := by
  induction pieces with
  | nil => exact absurd rfl hne
  | cons line rest ih =>
    -- the last piece is not a line yet, and stays in the buffer
    cases rest with
    | nil => exact ⟨[], [line], rfl, List.cons_ne_nil _ _, rfl, .read (by simp), fun _ _ => ⟨line, rfl⟩⟩
    | cons next more =>
      -- a line that faults is dropped, and what is behind it waits for the next call
      cases hline : readLine line with
      | error fault =>
        have hread : readPieces (line :: next :: more) =
            (⟨Text.joinWith '\n' (next :: more)⟩, .error fault) := by rw [readPieces, hline]; simp
        rw [hread]
        exact ⟨[line], next :: more, rfl, List.cons_ne_nil _ _, rfl, .fault (readLine_eq_error_iff.mp hline),
          by simp⟩
      | ok found =>
        obtain ⟨hshort, rfl⟩ := readLine_eq_ok_iff.mp hline
        obtain ⟨lines, kept, hpieces, hkept, hbuffer, hgives, hlast⟩ := ih (List.cons_ne_nil _ _)
        have hread : readPieces (line :: next :: more) = ((readPieces (next :: more)).1,
            (readPieces (next :: more)).2.map ((envelope? line).toList ++ ·)) := by
          rw [readPieces, hline]; simp
        rw [hread]
        refine ⟨line :: lines, kept, congrArg (line :: ·) hpieces, hkept, hbuffer, hgives.cons hshort, ?_⟩
        intro found hfound
        obtain ⟨later, hlater, -⟩ := Fallible.map_eq_ok.mp hfound
        exact hlast later hlater

/-- A call reads the next lines of the text; what is kept are the lines behind them. -/
theorem feed_gives (s : LineStream) (chunk : List Char) :
    ∃ lines, Text.splitAt '\n' (s.buffer ++ chunk) =
        lines ++ Text.splitAt '\n' (s.feed chunk).1.buffer ∧
      Gives lines (s.feed chunk).2 ∧
      ∀ found, (s.feed chunk).2 = .ok found → '\n' ∉ (s.feed chunk).1.buffer := by
  obtain ⟨lines, kept, hpieces, hkept, hbuffer, hgives, hlast⟩ :=
    readPieces_gives (Text.splitAt_ne_nil '\n' (s.buffer ++ chunk))
  have hfree : ∀ piece ∈ kept, '\n' ∉ piece := fun piece hpiece =>
    Text.not_mem_of_mem_splitAt (hpieces ▸ List.mem_append_right lines hpiece)
  refine ⟨lines, ?_, hgives, ?_⟩
  · rw [feed, hbuffer, Text.splitAt_joinWith hkept hfree, hpieces]
  · intro found hfound
    obtain ⟨last, rfl⟩ := hlast found hfound
    rw [feed, hbuffer]
    exact hfree last List.mem_cons_self

/-- Takes a chunk, and notes what the call gives. -/
def noting (state : LineStream × List (Except TooManyDigits (List (Record Json))))
    (chunk : List Char) : LineStream × List (Except TooManyDigits (List (Record Json))) :=
  let (t, result) := state.1.feed chunk
  (t, state.2 ++ [result])

/-- Takes chunks one after the other, whatever each call gives: the stream behind them, and what each call
gives. -/
def feedEach (chunks : List (List Char)) :
    LineStream × List (Except TooManyDigits (List (Record Json))) :=
  chunks.foldl noting (empty, [])

/-- What each call gives of a stream that takes chunks and is flushed. -/
def readEach (chunks : List (List Char)) : List (Except TooManyDigits (List (Record Json))) :=
  (feedEach chunks).2 ++ [(feedEach chunks).1.flush.2]

/-- The calls read the lines of the text one after the other; what is kept are the lines behind them. -/
theorem feedEach_gives (chunks : List (List Char)) :
    ∃ groups, Text.splitAt '\n' chunks.flatten =
        groups.flatten ++ Text.splitAt '\n' (feedEach chunks).1.buffer ∧
      List.Forall₂ Gives groups (feedEach chunks).2 ∧
      ((∀ result ∈ (feedEach chunks).2, ∃ found, result = .ok found) →
        '\n' ∉ (feedEach chunks).1.buffer) := by
  -- by the calls from the last one, which starts with the buffer of those before
  induction chunks using List.reverseRecOn with
  | nil => exact ⟨[], rfl, .nil, fun _ => List.not_mem_nil⟩
  | append_singleton chunks chunk ih =>
    obtain ⟨groups, hlines, hgroups, -⟩ := ih
    obtain ⟨lines, hnext, hgives, hbuffer⟩ := feed_gives (feedEach chunks).1 chunk
    have hstep : feedEach (chunks ++ [chunk]) =
        (((feedEach chunks).1.feed chunk).1, (feedEach chunks).2 ++ [((feedEach chunks).1.feed chunk).2]) := by
      rw [feedEach, List.foldl_concat]
      rfl
    rw [hstep]
    refine ⟨groups ++ [lines], ?_, List.rel_append hgroups (.cons hgives .nil), ?_⟩
    · rw [List.flatten_append, List.flatten_singleton, Text.splitAt_append_of_eq hlines, hnext]
      simp
    · intro hok
      obtain ⟨found, hfound⟩ := hok _ (List.mem_append_right _ List.mem_cons_self)
      exact hbuffer found hfound

/-- Flushing gives the last line. -/
theorem flush_gives (s : LineStream) : Gives [s.buffer] s.flush.2 := by
  cases hline : readLine s.buffer with
  | error fault =>
    rw [flush, hline]
    exact .fault (readLine_eq_error_iff.mp hline)
  | ok found =>
    obtain ⟨hshort, rfl⟩ := readLine_eq_ok_iff.mp hline
    have hread := (Gives.read (List.forall_mem_nil _)).cons hshort
    rw [flush, hline]
    cases henvelope : envelope? s.buffer <;> rw [henvelope] at hread <;> exact hread

/-! ## All calls together -/

/-- Calls give something, each of them, exactly if none of the lines that they read is overlong. -/
theorem forall_ok_iff {groups : List (List (List Char))}
    {results : List (Except TooManyDigits (List (Record Json)))} (h : List.Forall₂ Gives groups results) :
    (∀ result ∈ results, ∃ found, result = .ok found) ↔
      ∀ line ∈ groups.flatten, ∀ fault, ¬ Overlong line fault := by
  induction h with
  | nil => simp
  | @cons lines result groups results hgives _ ih =>
    rw [List.forall_mem_cons, ih, List.flatten_cons, List.forall_mem_append]
    refine and_congr_left' ?_
    cases hgives with
    | read hlines => simpa using hlines
    | @broken lines last fault hlines hlast =>
      have hmem : last ∈ lines ++ [last] := List.mem_append_right lines List.mem_cons_self
      constructor
      · rintro ⟨found, hfound⟩
        cases hfound
      · exact fun hshort => (hshort last hmem fault hlast).elim

/-- Then they give the envelopes of their lines. -/
theorem results_eq {groups : List (List (List Char))}
    {results : List (Except TooManyDigits (List (Record Json)))} (h : List.Forall₂ Gives groups results)
    (hshort : ∀ line ∈ groups.flatten, ∀ fault, ¬ Overlong line fault) :
    results = (groups.map (List.filterMap envelope?)).map .ok := by
  induction h with
  | nil => rfl
  | cons hgives _ ih =>
    rw [List.flatten_cons, List.forall_mem_append] at hshort
    rw [ih hshort.2]
    cases hgives with
    | read => rfl
    | broken hlines hlast => exact (hshort.1 _ (by simp) _ hlast).elim

/-- The last call reads the buffer as one line, which it is if the calls before gave something. -/
theorem readEach_gives (chunks : List (List Char)) :
    ∃ groups, List.Forall₂ Gives groups (readEach chunks) ∧
      ((∀ result ∈ (feedEach chunks).2, ∃ found, result = .ok found) →
        groups.flatten = Text.splitAt '\n' chunks.flatten) := by
  obtain ⟨groups, hlines, hgroups, hbuffer⟩ := feedEach_gives chunks
  refine ⟨groups ++ [[(feedEach chunks).1.buffer]],
    List.rel_append hgroups (.cons (flush_gives _) .nil), fun hok => ?_⟩
  rw [hlines, Text.splitAt_of_not_mem (hbuffer hok), List.flatten_append, List.flatten_singleton]

/-- As long as no line of the text is overlong, the chunks give something, each of them. -/
theorem feedEach_ok {chunks : List (List Char)}
    (hshort : ∀ line ∈ Text.splitAt '\n' chunks.flatten, ∀ fault, ¬ Overlong line fault) :
    ∀ result ∈ (feedEach chunks).2, ∃ found, result = .ok found := by
  obtain ⟨groups, hlines, hgroups, -⟩ := feedEach_gives chunks
  rw [hlines, List.forall_mem_append] at hshort
  exact (forall_ok_iff hgroups).mpr hshort.1

/-- Then the calls give the envelopes of all lines. -/
theorem readEach_eq {chunks : List (List Char)}
    (hshort : ∀ line ∈ Text.splitAt '\n' chunks.flatten, ∀ fault, ¬ Overlong line fault) :
    ∃ found : List (List (Record Json)), readEach chunks = found.map .ok ∧
      found.flatten = (Text.splitAt '\n' chunks.flatten).filterMap envelope? := by
  obtain ⟨groups, hall, hflatten⟩ := readEach_gives chunks
  have hlines := hflatten (feedEach_ok hshort)
  refine ⟨_, results_eq hall (hlines ▸ hshort), ?_⟩
  rw [← List.filterMap_flatten, hlines]

/-- A line that is the text of an object is not overlong, and holds that object. -/
theorem envelope?_of_parse {line : List Char} {members : Record Json}
    (h : Json.parse line = .ok (.obj members)) :
    (∀ fault, ¬ Overlong line fault) ∧ envelope? line = some members := by
  have hvalue := valueOf_of_parse h
  constructor
  · intro fault hoverlong
    cases hvalue.symm.trans hoverlong
  · rw [envelope?, hvalue]
    rfl

/-- The calls give something, each of them, exactly if no line of the text is overlong; then they give the
envelopes of all lines, in order, and a line that is the text of an object holds that object.  Whatever the
lines hold, each is read by one call, in order, or is kept. -/
theorem only_overlong_lines_cost_others (chunks : List (List Char)) :
    ((∀ result ∈ readEach chunks, ∃ found, result = .ok found) ↔
      ∀ line ∈ Text.splitAt '\n' chunks.flatten, ∀ fault, ¬ Overlong line fault) ∧
    ((∀ line ∈ Text.splitAt '\n' chunks.flatten, ∀ fault, ¬ Overlong line fault) →
      ∃ found : List (List (Record Json)), readEach chunks = found.map .ok ∧
        found.flatten = (Text.splitAt '\n' chunks.flatten).filterMap envelope?) ∧
    (∀ line members, Json.parse line = .ok (.obj members) →
      (∀ fault, ¬ Overlong line fault) ∧ envelope? line = some members) ∧
    ∃ groups, Text.splitAt '\n' chunks.flatten =
        groups.flatten ++ Text.splitAt '\n' (feedEach chunks).1.buffer ∧
      List.Forall₂ Gives groups (feedEach chunks).2 := by
  refine ⟨?_, readEach_eq, fun line members => envelope?_of_parse, ?_⟩
  · obtain ⟨groups, hall, hflatten⟩ := readEach_gives chunks
    constructor
    · intro hok
      rw [← hflatten (List.forall_mem_append.mp hok).1]
      exact (forall_ok_iff hall).mp hok
    · intro hshort
      rw [forall_ok_iff hall, hflatten (feedEach_ok hshort)]
      exact hshort
  · obtain ⟨groups, hlines, hgroups, -⟩ := feedEach_gives chunks
    exact ⟨groups, hlines, hgroups⟩

/-- Between lines that are cut off, an array, a control character and a code fence, two objects come through. -/
theorem objects_among_malformed_lines :
    let chunks : List (List Char) := ["\x60\x60\x60json\n[1, 2".toList, "]\n\x7b\"a\": 1\x7d\n\x7b\"a\"".toList,
      ":\n\x01\n 7\n\x7b\"b\": 2\x7d,".toList]
    (∀ line ∈ Text.splitAt '\n' chunks.flatten, ∀ fault, ¬ Overlong line fault) ∧
    ∃ found : List (List (Record Json)), readEach chunks = found.map .ok ∧
      found.flatten = [[("a", .ofInt 1)], [("b", .ofInt 2)]] := by
  intro chunks
  have hread : ((Text.splitAt '\n' chunks.flatten).mapM readLine).toOption =
      some [none, none, some [("a", .ofInt 1)], none, none, none, some [("b", .ofInt 2)]] := by
    decide +kernel
  rw [Fallible.toOption_eq_some_iff] at hread
  have hshort : ∀ line ∈ Text.splitAt '\n' chunks.flatten, ∀ fault, ¬ Overlong line fault := by
    intro line hline
    obtain ⟨found, hfound⟩ := Fallible.exists_mapM_iff.mp ⟨_, hread⟩ line hline
    exact (readLine_eq_ok_iff.mp hfound).1
  obtain ⟨found, hcalls, hfound⟩ := (only_overlong_lines_cost_others chunks).2.1 hshort
  refine ⟨hshort, found, hcalls, hfound.trans ?_⟩
  decide +kernel

theorem readLine_ones {n : Nat} (h : TooManyDigits.limit < n) :
    readLine (List.replicate n '1') = .error ⟨n⟩ := by
  have hvalue : valueOf (List.replicate n '1') = List.replicate n '1' := by
    rw [valueOf, Text.trim_replicate (by decide)]
    simp [Text.dropEndWhile]
  rw [readLine_eq_error_iff, Overlong, hvalue]
  exact Json.parse_ones h

/-- The fault of a line breaks off the call, and with it goes the object before it. -/
theorem readEach_of_fault {line : List Char} {fault : TooManyDigits} (hline : readLine line = .error fault)
    (hfree : '\n' ∉ line) :
    readEach ["\x7b\"a\": 1\x7d".toList ++ '\n' :: (line ++ '\n' :: "\x7b\"b\": 2\x7d\n".toList)] =
      [.error fault, .ok [[("b", .ofInt 2)]]] := by
  have hobject : (readLine "\x7b\"a\": 1\x7d".toList).toOption = some (some [("a", .ofInt 1)]) := by
    decide +kernel
  have hflush : (readLine "\x7b\"b\": 2\x7d\n".toList).toOption = some (some [("b", .ofInt 2)]) := by
    decide +kernel
  rw [Fallible.toOption_eq_some_iff] at hobject hflush
  -- the object of the first line is lost with the fault, and the third line waits for the flush
  have hcut : Text.splitAt '\n'
      ("\x7b\"a\": 1\x7d".toList ++ '\n' :: (line ++ '\n' :: "\x7b\"b\": 2\x7d\n".toList)) =
      ["\x7b\"a\": 1\x7d".toList, line, "\x7b\"b\": 2\x7d".toList, []] := by
    rw [Text.splitAt_append_cons (by decide), Text.splitAt_append_cons hfree]
    rfl
  have hcall : feed empty
      ("\x7b\"a\": 1\x7d".toList ++ '\n' :: (line ++ '\n' :: "\x7b\"b\": 2\x7d\n".toList)) =
      (⟨"\x7b\"b\": 2\x7d\n".toList⟩, .error fault) := by
    rw [feed, show empty.buffer = [] from rfl, List.nil_append, hcut]
    simp only [readPieces, hobject, hline]
    rfl
  simp only [readEach, feedEach, List.foldl_cons, List.foldl_nil, noting, hcall, flush, hflush]
  rfl

/-- An integer of 4301 digits costs the object before it, though not the one behind it. -/
theorem object_lost_before_overlong_line :
    let digits := List.replicate (TooManyDigits.limit + 1) '1'
    Json.parse "\x7b\"a\": 1\x7d".toList = .ok (.obj [("a", .ofInt 1)]) ∧
    readEach ["\x7b\"a\": 1\x7d".toList ++ '\n' :: (digits ++ '\n' :: "\x7b\"b\": 2\x7d\n".toList)] =
      [.error ⟨TooManyDigits.limit + 1⟩, .ok [[("b", .ofInt 2)]]] := by
  have hlong : TooManyDigits.limit < TooManyDigits.limit + 1 := Nat.lt_succ_self _
  refine ⟨Fallible.toOption_eq_some_iff.mp (by decide +kernel), ?_⟩
  exact readEach_of_fault (readLine_ones hlong) (by simp)

end LineStream

end UiSurface
