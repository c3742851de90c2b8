import Mathlib.Data.List.DropRight
import Mathlib.Data.List.ReduceOption
import UiSurface.Message.LineStream
import UiSurface.Proofs.Decoding

/-!
# Chunks — a stream of lines does not depend on how it is cut

The buffer of a stream is what has been received after the last line feed.  So a chunk behind it is cut at
the same places as in the whole text, and the lines that it completes are the next lines of that.  What is
left in the buffer at the end is the last line.

This is told of texts whose lines can all be read, be it as an envelope or as nothing.

Main lemmas: `splitAt_rest_append` (cutting goes on behind the last separator), `feedAll_eq` (what the chunks
so far have given, and what is in the buffer), `chunks_do_not_matter`.
-/

namespace UiSurface

namespace Text

/-! ## Cutting a text that goes on -/

variable {α : Type} [DecidableEq α]

/-- What stands behind the last separator. -/
def rest (sep : α) (as : List α) : List α := as.rtakeWhile (· != sep)

/-- No separator stands behind the last one. -/
theorem not_mem_rest (sep : α) (as : List α) : sep ∉ rest sep as := by
  intro h
  simpa using List.mem_rtakeWhile_imp h

/-- A separator leaves nothing behind it; any other item comes to what was there. -/
theorem rest_concat (sep : α) (as : List α) (a : α) :
    rest sep (as ++ [a]) = if a = sep then [] else rest sep as ++ [a] := by
  by_cases ha : a = sep <;> simp [rest, ha]

/-- The last piece is what stands behind the last separator.  More text does not change the pieces before it,
and is cut together with it. -/
theorem splitAt_rest_append (sep : α) (as : List α) :
    ∃ front, splitAt sep as = front ++ [rest sep as] ∧
      ∀ more, splitAt sep (as ++ more) = front ++ splitAt sep (rest sep as ++ more) := by
  induction as using List.reverseRecOn with
  | nil => exact ⟨[], rfl, fun more => rfl⟩
  | append_singleton as a ih =>
    obtain ⟨front, -, hmore⟩ := ih
    have hrest := not_mem_rest sep as
    rw [rest_concat]
    -- the separator ends the piece that was open, and any other character stays in it
    by_cases ha : a = sep
    · subst ha
      have hcut : ∀ more, splitAt a (as ++ [a] ++ more) = front ++ rest a as :: splitAt a more := by
        intro more
        rw [List.append_assoc, hmore, List.singleton_append, splitAt_append_cons hrest]
      refine ⟨front ++ [rest a as], ?_, fun more => ?_⟩
      · have hend := hcut []
        rw [List.append_nil] at hend
        simp [hend, splitAt]
      · rw [hcut more]
        simp
    · have hmem : sep ∉ rest sep as ++ [a] := by simp [hrest, Ne.symm ha]
      rw [if_neg ha]
      refine ⟨front, ?_, fun more => ?_⟩
      · rw [hmore, splitAt_of_not_mem hmem]
      · rw [List.append_assoc, hmore, List.append_assoc]

end Text

namespace LineStream

/-! ## Chunks -/

/-- Takes a chunk, and adds what it gives to what was given before.  A fault ends the reading. -/
def next (state : LineStream × Except TooManyDigits (List (Record Json))) (chunk : List Char) :
    LineStream × Except TooManyDigits (List (Record Json)) :=
  match state with
  | (s, .ok found) =>
    let (t, more) := s.feed chunk
    (t, more.map (found ++ ·))
  | (s, .error fault) => (s, .error fault)

/-- Takes chunks one after the other: the stream behind them, and all that they give. -/
def feedAll (chunks : List (List Char)) : LineStream × Except TooManyDigits (List (Record Json)) :=
  chunks.foldl next (empty, .ok [])

/-- All that a stream gives that takes chunks and is flushed. -/
def readAll (chunks : List (List Char)) : Except TooManyDigits (List (Record Json)) := do
  let (s, given) := feedAll chunks
  let found ← given
  let last ← s.flush.2
  return found ++ last

/-- Lines that can all be read give what each of them gives, and the last piece is kept. -/
theorem readPieces_append {front : List (List Char)} {found : List (Option (Record Json))}
    (hfront : front.mapM readLine = .ok found) (last : List Char) :
    readPieces (front ++ [last]) = (⟨last⟩, .ok found.reduceOption) := by
  induction front generalizing found with
  | nil =>
    obtain rfl := Except.ok.inj hfront
    rfl
  | cons line front ih =>
    simp only [List.mapM_cons, Fallible.bind_eq_ok] at hfront
    obtain ⟨envelope, henvelope, more, hmore, hfound⟩ := hfront
    obtain rfl := Except.ok.inj hfound
    rw [List.cons_append, readPieces, henvelope]
    · simp only [ih hmore]
      cases envelope <;> rfl
    · simp

/-- What the chunks so far give are their lines, and the buffer holds what follows the last of them. -/
theorem feedAll_eq {chunks front : List (List Char)} {found : List (Option (Record Json))}
    (hcut : Text.splitAt '\n' chunks.flatten = front ++ [Text.rest '\n' chunks.flatten])
    (hfront : front.mapM readLine = .ok found) :
    feedAll chunks = (⟨Text.rest '\n' chunks.flatten⟩, .ok found.reduceOption) := by
  induction chunks using List.reverseRecOn generalizing front found with
  | nil =>
    obtain ⟨rfl, -⟩ := List.append_inj' (show [] ++ [[]] = front ++ [_] from hcut) rfl
    obtain rfl := Except.ok.inj hfront
    rfl
  | append_singleton chunks chunk ih =>
    obtain ⟨before, hbefore, hmore⟩ := Text.splitAt_rest_append '\n' chunks.flatten
    obtain ⟨now, hnow, -⟩ := Text.splitAt_rest_append '\n' (Text.rest '\n' chunks.flatten ++ chunk)
    -- the lines of all chunks are those of the chunks before, and those that this one completes
    have hboth : before ++ now ++ [Text.rest '\n' (Text.rest '\n' chunks.flatten ++ chunk)] =
        front ++ [Text.rest '\n' (chunks ++ [chunk]).flatten] := by
      rw [← hcut, List.append_assoc, ← hnow, ← hmore, List.flatten_append, List.flatten_singleton]
    obtain ⟨rfl, hrest⟩ := List.append_inj' hboth rfl
    rw [← List.singleton_inj.mp hrest]
    simp only [List.mapM_append, Fallible.bind_eq_ok] at hfront
    obtain ⟨found₁, hfound₁, found₂, hfound₂, hfound⟩ := hfront
    obtain rfl := Except.ok.inj hfound
    have hfeed : feed ⟨Text.rest '\n' chunks.flatten⟩ chunk =
        (⟨Text.rest '\n' (Text.rest '\n' chunks.flatten ++ chunk)⟩, .ok found₂.reduceOption) := by
      rw [feed, hnow, readPieces_append hfound₂]
    have hstep : feedAll (chunks ++ [chunk]) = next (feedAll chunks) chunk := by
      rw [feedAll, List.foldl_concat]
      rfl
    rw [hstep, ih hbefore hfound₁, next, hfeed, List.reduceOption_append]
    rfl

/-- A text whose lines can all be read gives the same however it is cut into chunks: what each of its lines
gives, in order, the last line being what stands behind the last line feed.  And behind each chunk the buffer
holds what follows the last line feed so far. -/
theorem chunks_do_not_matter (chunks : List (List Char))
    (h : ∀ line ∈ Text.splitAt '\n' chunks.flatten, ∃ found, readLine line = .ok found) :
    (∃ found, (Text.splitAt '\n' chunks.flatten).mapM readLine = .ok found ∧
      readAll chunks = .ok found.reduceOption) ∧
    (∀ fed, fed <+: chunks → ∃ given,
      feedAll fed = (⟨fed.flatten.rtakeWhile (· != '\n')⟩, .ok given)) := by
  constructor
  · obtain ⟨front, hcut, -⟩ := Text.splitAt_rest_append '\n' chunks.flatten
    rw [hcut, List.forall_mem_append, List.forall_mem_singleton] at h
    obtain ⟨hlines, last, hlast⟩ := h
    obtain ⟨found, hfound⟩ := Fallible.exists_mapM_iff.mpr hlines
    rw [hcut]
    refine ⟨found ++ [last], ?_, ?_⟩
    · rw [List.mapM_append, hfound, List.mapM_cons, hlast]
      rfl
    · have hflush : (flush ⟨Text.rest '\n' chunks.flatten⟩).2 = .ok last.toList := by
        rw [flush, hlast]
        rfl
      rw [readAll, feedAll_eq hcut hfound, List.reduceOption_append]
      simp only [hflush]
      cases last <;> rfl
  · -- the lines that are whole so far are lines of the whole text
    rintro fed ⟨more, rfl⟩
    obtain ⟨front, hcut, hmore⟩ := Text.splitAt_rest_append '\n' fed.flatten
    rw [List.flatten_append, hmore, List.forall_mem_append] at h
    obtain ⟨found, hfound⟩ := Fallible.exists_mapM_iff.mpr h.1
    exact ⟨_, feedAll_eq hcut hfound⟩

/-- Cuts between a carriage return and its line feed, in a string, behind a backslash and around nothing, in
a text with a code fence, a comma behind an object, an empty line and a line that is no object. -/
theorem cut_in_line_end_and_string :
    let chunks : List (List Char) := ["\x60\x60\x60json\r".toList, "\n\x7b\"a\": \"x\\".toList, [],
      "ny\"\x7d,\n\n[1]\n\x7b\"b\"".toList, ": 2\x7d".toList]
    (∀ line ∈ Text.splitAt '\n' chunks.flatten, ∃ found, readLine line = .ok found) ∧
    readAll chunks = .ok [[("a", .str "x\ny")], [("b", .ofInt 2)]] ∧
    (feedAll (chunks.take 3)).1 = ⟨"\x7b\"a\": \"x\\".toList⟩ := by
  intro chunks
  have hread : ((Text.splitAt '\n' chunks.flatten).mapM readLine).toOption =
      some [none, some [("a", .str "x\ny")], none, none, some [("b", .ofInt 2)]] := by decide +kernel
  rw [Fallible.toOption_eq_some_iff] at hread
  have hlines : ∀ line ∈ Text.splitAt '\n' chunks.flatten, ∃ found, readLine line = .ok found :=
    Fallible.exists_mapM_iff.mp ⟨_, hread⟩
  obtain ⟨⟨found, hfound, hall⟩, hbuffer⟩ := chunks_do_not_matter chunks hlines
  obtain rfl := Except.ok.inj (hread.symm.trans hfound)
  obtain ⟨given, hgiven⟩ := hbuffer (chunks.take 3) (List.take_prefix 3 chunks)
  refine ⟨hlines, hall, ?_⟩
  simp only [hgiven]
  decide +kernel

end LineStream

end UiSurface
