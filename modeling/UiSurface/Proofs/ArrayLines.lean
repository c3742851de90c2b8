import Mathlib.Data.List.ReduceOption
import UiSurface.Proofs.ArrayTexts
import UiSurface.Proofs.Ascii
import UiSurface.Proofs.LineReaders

/-!
# Lines of arrays — one object a line, between brackets

Objects may be sent as an array with one element a line.  A batch is then one array, and is read as such.
A stream never sees the array: it passes over the lines of the brackets, and drops the comma at the end of a
line before it reads the line.  Both give the objects, if each object is read from its own text.

A stream can do so since the text of an object is one line, with a brace at either end, whatever is in the
strings of the object.

Main lemmas: `objectText_eq` (the ends of a text), `LineStream.readLine_comma` (an element with its comma),
`joinWith_elementLines` (the array that the lines are), `Envelope.array_lines_read_alike`.
-/

namespace UiSurface

namespace Text

/-- Trimmed, a text with no white space at its ends loses what white space is put behind it. -/
theorem trim_append_of_ends {cs : List Char} {first last : Char} (hfirst : cs.head? = some first)
    (hlast : cs.getLast? = some last) (hends : isBlank first = false ∧ isBlank last = false)
    {blank : List Char} (hblank : ∀ c ∈ blank, isBlank c = true) : trim (cs ++ blank) = cs := by
  obtain ⟨rest, rfl⟩ := List.head?_eq_some_iff.mp hfirst
  rw [trim, List.cons_append, List.dropWhile_cons_of_neg (by simp [hends.1]), ← List.cons_append,
    dropEndWhile_append hblank, dropEndWhile_of_getLast? hlast hends.2]

/-- A text with no white space at its ends is trimmed already. -/
theorem trim_of_ends {cs : List Char} {first last : Char} (hfirst : cs.head? = some first)
    (hlast : cs.getLast? = some last) (hends : isBlank first = false ∧ isBlank last = false) :
    trim cs = cs := by
  have htrim : trim (cs ++ []) = cs := trim_append_of_ends hfirst hlast hends nofun
  rwa [List.append_nil] at htrim

end Text

open Json

variable {members first : Record Json} {objects others : List (Record Json)}

/-! ## What is sent -/

/-- The text of an object on one line. -/
def objectText (members : Record Json) : List Char := (Json.obj members).toText.toList

/-- The lines of the elements of an array: each but the last ends with a comma. -/
def elementLines : List (Record Json) → List (List Char)
  | [] => []
  | [last] => [objectText last]
  | members :: more => (objectText members ++ [',']) :: elementLines more

/-- The lines of an array with one element a line. -/
def arrayLines (objects : List (Record Json)) : List (List Char) :=
  ['['] :: (elementLines objects ++ [[']']])

/-- The text of an array with one element a line; a line feed may end it. -/
def arrayText (objects : List (Record Json)) (ended : Bool) : List Char :=
  Text.joinWith '\n' (arrayLines objects) ++ if ended then ['\n'] else []

/-- The text of an object stands between braces. -/
theorem objectText_eq (members : Record Json) :
    ∃ inner, objectText members = '{' :: (inner ++ ['}']) := by
  refine ⟨(String.intercalate ", " (memberTexts members)).toList, ?_⟩
  rw [objectText, toText, String.toList_append, String.toList_append]
  rfl

/-- The text of an object is one line: a line feed in a string is escaped. -/
theorem newline_not_mem_objectText (members : Record Json) : '\n' ∉ objectText members :=
  (isAscii_toText (.obj members)).not_mem_newline

theorem elementLines_cons_cons (first next : Record Json) (more : List (Record Json)) :
    elementLines (first :: next :: more) =
      (objectText first ++ [',']) :: elementLines (next :: more) := rfl

theorem newline_not_mem_elementLines (objects : List (Record Json)) :
    ∀ line ∈ elementLines objects, '\n' ∉ line := by
  fun_induction elementLines objects with
  | case1 => exact nofun
  | case2 last => exact List.forall_mem_singleton.mpr (newline_not_mem_objectText last)
  | case3 members more hmore ih =>
    exact List.forall_mem_cons.mpr ⟨by simpa using newline_not_mem_objectText members, ih⟩

/-- Joined, the lines are the texts of the elements with commas between them. -/
theorem joinWith_elementLines :
    Text.joinWith '\n' (elementLines (first :: others) ++ [[']']]) =
      objectText first ++ (others.flatMap fun members => ',' :: '\n' :: objectText members) ++
        ['\n', ']'] := by
  induction others generalizing first with
  | nil => simp [elementLines, Text.joinWith]
  | cons next more ih =>
    rw [elementLines_cons_cons, List.cons_append, Text.joinWith_cons '\n' _ (by simp), ih]
    simp

/-! ## The stream -/

namespace LineStream

/-- The comma behind the text of an object is dropped, whatever commas are in it. -/
theorem readLine_comma (h : parse (objectText members) = .ok (.obj members)) :
    readLine (objectText members ++ [',']) = .ok (some members) := by
  obtain ⟨inner, hinner⟩ := objectText_eq members
  have hfirst : (objectText members ++ [',']).head? = some '{' := by rw [hinner]; rfl
  have htrim : Text.trim (objectText members ++ [',']) = objectText members ++ [','] :=
    Text.trim_of_ends hfirst List.getLast?_concat (by decide)
  -- the commas in the object stand in front of its brace, and stay
  have hvalue : valueOf (objectText members ++ [',']) = objectText members := by
    rw [valueOf, htrim, Text.dropEndWhile_append (by simp), hinner, ← List.cons_append,
      Text.dropEndWhile_of_getLast? List.getLast?_concat (by decide)]
  rw [readLine_eq, hvalue, h]
  rfl

/-- The text of an object is read as that object by the reader of lines. -/
theorem readLine_objectText (h : parse (objectText members) = .ok (.obj members)) :
    readLine (objectText members) = .ok (some members) := by
  obtain ⟨hshort, hmembers⟩ := envelope?_of_parse h
  exact readLine_eq_ok_iff.mpr ⟨hshort, hmembers.symm⟩

/-- Every line but the brackets gives its object. -/
theorem map_readLine_elementLines
    (h : ∀ members ∈ objects, parse (objectText members) = .ok (.obj members)) :
    (elementLines objects).map readLine = (objects.map some).map .ok := by
  fun_induction elementLines objects with
  | case1 => rfl
  | case2 last =>
    rw [List.map_singleton, readLine_objectText (h last List.mem_cons_self)]
    rfl
  | case3 members more hmore ih =>
    obtain ⟨hmembers, hrest⟩ := List.forall_mem_cons.mp h
    rw [List.map_cons, readLine_comma hmembers, ih hrest]
    rfl

/-- What a stream gives of lines that can all be read. -/
theorem readEach_of_map_readLine {chunks : List (List Char)} {found : List (Option (Record Json))}
    (h : (Text.splitAt '\n' chunks.flatten).map readLine = found.map .ok) :
    ∃ calls : List (List (Record Json)), readEach chunks = calls.map .ok ∧
      calls.flatten = found.reduceOption := by
  have hshort : ∀ line ∈ Text.splitAt '\n' chunks.flatten, ∀ fault, ¬ Overlong line fault := by
    intro line hline
    obtain ⟨envelope, henvelope⟩ := Fallible.exists_map_eq_map_ok_iff.mp ⟨found, h⟩ line hline
    exact (readLine_eq_ok_iff.mp henvelope).1
  have hfound : (Text.splitAt '\n' chunks.flatten).map envelope? = found.map id :=
    Fallible.map_eq_map (fun henvelope => (readLine_eq_ok_iff.mp henvelope).2.symm) h
  obtain ⟨calls, hcalls, hflatten⟩ := readEach_eq hshort
  refine ⟨calls, hcalls, hflatten.trans ?_⟩
  rw [List.map_id] at hfound
  rw [← hfound, List.reduceOption, List.filterMap_map]
  rfl

/-- The lines of the text, and what is behind the last line feed. -/
theorem splitAt_arrayText (objects : List (Record Json)) (ended : Bool) :
    Text.splitAt '\n' (arrayText objects ended) = arrayLines objects ++ if ended then [[]] else [] := by
  have hfree : ∀ line ∈ arrayLines objects, '\n' ∉ line := by
    simp only [arrayLines, List.forall_mem_cons, List.forall_mem_append]
    exact ⟨by decide, newline_not_mem_elementLines objects, by decide⟩
  have hlines : Text.splitAt '\n' (Text.joinWith '\n' (arrayLines objects)) =
      (['['] :: elementLines objects) ++ Text.splitAt '\n' [']'] :=
    Text.splitAt_joinWith (List.cons_ne_nil _ _) hfree
  rw [arrayText, Text.splitAt_append_of_eq hlines]
  cases ended <;> simp [arrayLines, Text.splitAt]

/-- A stream passes over the brackets, and gives the elements. -/
theorem readEach_arrayText (h : ∀ members ∈ objects, parse (objectText members) = .ok (.obj members))
    {ended : Bool} {chunks : List (List Char)} (hchunks : chunks.flatten = arrayText objects ended) :
    ∃ calls : List (List (Record Json)), readEach chunks = calls.map .ok ∧ calls.flatten = objects := by
  have hframe : readLine ['['] = .ok none ∧ readLine [']'] = .ok none ∧ readLine [] = .ok none :=
    ⟨rfl, rfl, rfl⟩
  have hlines : (Text.splitAt '\n' chunks.flatten).map readLine =
      (none :: (objects.map some ++ none :: if ended then [none] else [])).map .ok := by
    rw [hchunks, splitAt_arrayText, arrayLines]
    cases ended <;> simp [map_readLine_elementLines h, hframe]
  obtain ⟨calls, hcalls, hflatten⟩ := readEach_of_map_readLine hlines
  refine ⟨calls, hcalls, hflatten.trans ?_⟩
  cases ended <;> simp [List.reduceOption]

end LineStream

namespace Envelope

/-- The lines of an array are that array, with each further element behind a comma. -/
theorem joinWith_arrayLines (first : Record Json) (others : List (Record Json)) :
    Text.joinWith '\n' (arrayLines (first :: others)) =
      '[' :: '\n' :: (objectText first ++
        (others.flatMap fun members => ',' :: '\n' :: objectText members) ++ ['\n', ']']) := by
  rw [arrayLines, Text.joinWith_cons '\n' _ (by simp), joinWith_elementLines]
  rfl

/-- Around an array nothing is trimmed but the line feed that may end it. -/
theorem trim_arrayText (first : Record Json) (others : List (Record Json)) (ended : Bool) :
    Text.trim (arrayText (first :: others) ended) = Text.joinWith '\n' (arrayLines (first :: others)) := by
  have hlast : (Text.joinWith '\n' (arrayLines (first :: others))).getLast? = some ']' := by
    simp [joinWith_arrayLines, List.getLast?_cons]
  have hfirst : (Text.joinWith '\n' (arrayLines (first :: others))).head? = some '[' := by
    rw [joinWith_arrayLines, List.head?_cons]
  have hfeed : Text.isBlank '\n' = true := by decide
  refine Text.trim_append_of_ends hfirst hlast (by decide) ?_
  cases ended <;> simp [hfeed]

/-- Read as a whole, the text gives the objects. -/
theorem parseBatch_arrayText (hne : objects ≠ [])
    (h : ∀ members ∈ objects, parse (objectText members) = .ok (.obj members)) (ended : Bool) :
    parseBatch (arrayText objects ended) = .ok (objects.map .obj) := by
  obtain ⟨first, others, rfl⟩ := List.exists_cons_of_ne_nil hne
  have hopen : (objectText first).head? = some '{' := by
    obtain ⟨inner, hinner⟩ := objectText_eq first
    rw [hinner, List.head?_cons]
  rw [parseBatch, trim_arrayText, joinWith_arrayLines, List.head?_cons, if_pos rfl,
    parse_array hopen h]
  rfl

/-- Objects that are each read from their own text are read from an array with one element a line, as a batch
and as a stream, however the text arrives in chunks. -/
theorem array_lines_read_alike (hne : objects ≠ [])
    (h : ∀ members ∈ objects, parse (objectText members) = .ok (.obj members)) (ended : Bool) :
    parseBatch (arrayText objects ended) = .ok (objects.map .obj) ∧
      ∀ chunks : List (List Char), chunks.flatten = arrayText objects ended →
        ∃ calls : List (List (Record Json)), LineStream.readEach chunks = calls.map .ok ∧
          calls.flatten = objects :=
  ⟨parseBatch_arrayText hne h ended, fun _ hchunks => LineStream.readEach_arrayText h hchunks⟩

/-- Strings with commas, brackets, quotes, braces and line feeds in them, and a name that is a code fence. -/
theorem array_lines_with_separators_in_strings :
    let objects : List (Record Json) :=
      [[("a", .str "],\n[\","), ("\x60\x60\x60", .arr [.ofInt 1, .obj [], .null])], [("b", .str "\x7d,")]]
    (∀ members ∈ objects, parse (objectText members) = .ok (.obj members)) ∧
      parseBatch (arrayText objects true) = .ok (objects.map .obj) ∧
      ∀ chunks : List (List Char), chunks.flatten = arrayText objects true →
        ∃ calls : List (List (Record Json)), LineStream.readEach chunks = calls.map .ok ∧
          calls.flatten = objects := by
  intro objects
  have hparse : ∀ members ∈ objects, parse (objectText members) = .ok (.obj members) := by
    have hread : ∀ members ∈ objects, (parse (objectText members)).toOption = some (.obj members) := by
      decide +kernel
    exact fun members hmembers => Fallible.toOption_eq_some_iff.mp (hread members hmembers)
  exact ⟨hparse, array_lines_read_alike (List.cons_ne_nil _ _) hparse true⟩

end Envelope

end UiSurface
