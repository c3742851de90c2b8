import UiSurface.Message.Text
import UiSurface.Proofs.Skipping

/-!
# Line readers — objects one a line, read as a stream and as a batch

A stream ends a line at a line feed.  A batch ends one at every boundary that Unicode knows, and three of
these may stand in a string: the next line, the line separator and the paragraph separator.  A batch cuts a
string there, and then reads nothing.  Texts of objects without these three are the lines of the batch, as
they are those of the stream, and both readers give the objects.

White space is dropped at the ends of the whole batch, before it is cut.  So the first text may lose some
in front, and the last some behind; they are texts of the same objects still.

Main lemmas: `Text.lines_joinWith` (texts without line ends are the lines), `exists_trim_joinWith` (what a
batch reads), `exists_line_of_lineEnd` (a text that is cut), `line_readers_agree_unless_a_string_is_cut`.
-/

namespace UiSurface

namespace Text

/-! ## Texts that are joined -/

section

variable {α : Type} (sep : α)

/-- A separator stands behind the first of several pieces. -/
theorem joinWith_cons (piece : List α) {pieces : List (List α)} (h : pieces ≠ []) :
    joinWith sep (piece :: pieces) = piece ++ sep :: joinWith sep pieces := by
  cases pieces with
  | nil => exact absurd rfl h
  | cons => rfl

/-- Only the first piece depends on the first piece. -/
theorem exists_joinWith_cons (pieces : List (List α)) :
    ∃ back, ∀ piece, joinWith sep (piece :: pieces) = piece ++ back := by
  cases pieces with
  | nil => exact ⟨[], fun piece => (List.append_nil piece).symm⟩
  | cons next more => exact ⟨sep :: joinWith sep (next :: more), fun piece => rfl⟩

/-- Only the last piece depends on the last piece. -/
theorem exists_joinWith_concat (pieces : List (List α)) :
    ∃ front, ∀ piece, joinWith sep (pieces ++ [piece]) = front ++ piece := by
  induction pieces with
  | nil => exact ⟨[], fun piece => rfl⟩
  | cons first pieces ih =>
    obtain ⟨front, hfront⟩ := ih
    refine ⟨first ++ sep :: front, fun piece => ?_⟩
    rw [List.cons_append, joinWith_cons sep first (by simp), hfront]
    simp

end

/-- White space is dropped from the end of what is not all white space. -/
theorem dropEndWhile_append_of_ne_nil {p : Char → Bool} {cs : List Char} (h : dropEndWhile p cs ≠ [])
    (front : List Char) : dropEndWhile p (front ++ cs) = front ++ dropEndWhile p cs := by
  have hne : (cs.reverse.dropWhile p).isEmpty = false := by simpa [dropEndWhile] using h
  simp [dropEndWhile, List.dropWhile_append, hne]

/-- What trims to nothing is white space. -/
theorem forall_isBlank_of_trim {cs : List Char} (h : trim cs = []) : ∀ c ∈ cs, isBlank c = true := by
  have hdrop : ∀ c ∈ cs.dropWhile isBlank, isBlank c = true := List.rdropWhile_eq_nil_iff.mp h
  rw [← List.takeWhile_append_dropWhile (p := isBlank) (l := cs), List.forall_mem_append]
  exact ⟨fun c hc => List.mem_takeWhile_imp hc, hdrop⟩

/-! ## Lines -/

/-- A line goes to the first line end. -/
theorem linesFrom_append {front : List Char} (h : ∀ c ∈ front, isLineEnd c = false) {c : Char}
    (hc : isLineEnd c = true) (acc rest : List Char) :
    linesFrom acc false (front ++ c :: rest) = (acc.reverse ++ front) :: linesFrom [] (c == '\r') rest := by
  induction front generalizing acc with
  | nil => simp [linesFrom, hc]
  | cons d front ih =>
    obtain ⟨hd, hfront⟩ := List.forall_mem_cons.mp h
    rw [List.cons_append, linesFrom, if_neg (by simp), if_neg (by simp [hd]), ih hfront]
    simp

/-- The first line ends at the first end of a line. -/
theorem lines_append {front : List Char} (h : ∀ c ∈ front, isLineEnd c = false) {c : Char}
    (hc : isLineEnd c = true) (rest : List Char) :
    lines (front ++ c :: rest) = front :: linesFrom [] (c == '\r') rest := linesFrom_append h hc [] rest

/-- Without an end of a line there is one line, or none. -/
theorem linesFrom_of_free {cs : List Char} (h : ∀ c ∈ cs, isLineEnd c = false) (acc : List Char) :
    linesFrom acc false cs = if (acc.reverse ++ cs).isEmpty then [] else [acc.reverse ++ cs] := by
  induction cs generalizing acc with
  | nil => simp [linesFrom]
  | cons c cs ih =>
    obtain ⟨hc, hcs⟩ := List.forall_mem_cons.mp h
    rw [linesFrom, if_neg (by simp), if_neg (by simp [hc]), ih hcs]
    simp

/-- Pieces that hold something, but no line ends, are the lines of the text that they are joined to. -/
theorem lines_joinWith {pieces : List (List Char)} (hne : ∀ piece ∈ pieces, piece ≠ [])
    (hfree : ∀ piece ∈ pieces, ∀ c ∈ piece, isLineEnd c = false) :
    lines (joinWith '\n' pieces) = pieces := by
  induction pieces with
  | nil => rfl
  | cons piece pieces ih =>
    obtain ⟨hpiece, hpieces⟩ := List.forall_mem_cons.mp hfree
    rw [List.forall_mem_cons] at hne
    cases pieces with
    | nil =>
      rw [joinWith, lines, linesFrom_of_free hpiece]
      simp [hne.1]
    | cons next more =>
      rw [joinWith_cons '\n' piece (by simp), lines_append hpiece (by decide)]
      exact congrArg (piece :: ·) (ih hne.2 hpieces)

/-- If some piece holds a line end, the part before it of such a piece is a line. -/
theorem exists_line_of_lineEnd {pieces : List (List Char)} {c : Char} (hc : isLineEnd c = true)
    (h : ∃ piece ∈ pieces, c ∈ piece) :
    ∃ front lineEnd rest, front ++ lineEnd :: rest ∈ pieces ∧ isLineEnd lineEnd = true ∧
      front ∈ lines (joinWith '\n' pieces) := by
  induction pieces with
  | nil => simp at h
  | cons piece pieces ih =>
    by_cases hfree : ∀ d ∈ piece, isLineEnd d = false
    · have hlater : ∃ piece ∈ pieces, c ∈ piece := by
        obtain ⟨cut, hcut, hmem⟩ := h
        rcases List.mem_cons.mp hcut with rfl | hcut
        · rw [hfree c hmem] at hc
          cases hc
        · exact ⟨cut, hcut, hmem⟩
      obtain ⟨front, lineEnd, rest, hmem, hend, hline⟩ := ih hlater
      refine ⟨front, lineEnd, rest, List.mem_cons_of_mem _ hmem, hend, ?_⟩
      rw [joinWith_cons '\n' piece (List.ne_nil_of_mem hmem), lines_append hfree (by decide)]
      exact List.mem_cons_of_mem _ hline
    · -- the piece is cut at its first line end
      have hsome : (piece.find? isLineEnd).isSome = true := by simpa using hfree
      obtain ⟨lineEnd, hfind⟩ := Option.isSome_iff_exists.mp hsome
      obtain ⟨hend, front, rest, rfl, hfront⟩ := List.find?_eq_some_iff_append.mp hfind
      obtain ⟨back, hback⟩ := exists_joinWith_cons '\n' pieces
      refine ⟨front, lineEnd, rest, List.mem_cons_self, hend, ?_⟩
      rw [hback, List.append_assoc, List.cons_append, lines_append (by simpa using hfront) hend]
      exact List.mem_cons_self

end Text

namespace Json

open Reader

variable {cs : List Char} {members : Record Json}

/-! ## Texts of objects with line ends in them -/

/-- Where the text begins decides nothing about being in a string. -/
theorem Reader.inString_shift {k : Nat} {s : State} : (s.shift k).InString ↔ s.InString := by
  cases s with
  | failed failure => exact Iff.rfl
  | reading offset stack expect token => cases token <;> exact Iff.rfl

/-- White space is no beginning of a string. -/
theorem not_inString_of_blank (h : ∀ c ∈ cs, Text.isBlank c = true) : ¬ (run initial cs).InString := by
  induction cs with
  | nil => exact id
  | cons c cs ih =>
    obtain ⟨hc, hcs⟩ := List.forall_mem_cons.mp h
    cases hgap : isGap c with
    | false =>
      obtain ⟨failure, hrun⟩ := exists_run_of_foreign (isForeign_of_isBlank hc hgap) cs
      rw [hrun]
      exact id
    | true =>
      rw [run_cons_of_isGap hgap, inString_shift]
      exact ih hcs

/-- Where the text of an object is cut at a line end, it is cut in a string, and what is in front of the cut
is neither blank nor JSON. -/
theorem cut_in_string {front rest : List Char} {lineEnd : Char}
    (h : parse (front ++ lineEnd :: rest) = .ok (.obj members)) (hend : Text.isLineEnd lineEnd = true)
    (hfeed : lineEnd ≠ '\n') (hreturn : lineEnd ≠ '\r') :
    (lineEnd = '\u0085' ∨ lineEnd = '\u2028' ∨ lineEnd = '\u2029') ∧
      Text.trim front ≠ [] ∧ ∀ v, parse front ≠ .ok v := by
  have hread : ∀ failure, run initial (front ++ lineEnd :: rest) ≠ .failed failure := by
    intro failure hfailure
    rw [parse_eq_ok_obj_iff, hfailure] at h
    exact not_done_failed _ h
  -- what ends the line is none of the characters that JSON has outside its strings
  obtain ⟨hstring, hplain⟩ := inString_of_foreign (isForeign_of_isLineEnd hend hfeed hreturn) hread
  refine ⟨eq_of_isLineEnd hend hplain, ?_, ?_⟩
  · intro htrim
    exact not_inString_of_blank (Text.forall_isBlank_of_trim htrim) hstring
  · obtain ⟨failure, hfinish⟩ := exists_finish_of_inString hstring
    intro v hv
    unfold parse at hv
    split at hv
    · cases hv
    · simp only [readValue, hfinish] at hv
      cases hv

end Json

namespace Envelope

open Json

/-! ## What a batch reads -/

/-- Lines are read together just if each of them is read. -/
theorem parseAll_eq_ok_iff {lines : List (List Char)} {found : List Json} :
    parseAll lines = .ok found ↔ lines.map parse = found.map .ok := by
  induction lines generalizing found with
  | nil => cases found <;> simp [parseAll]
  | cons line rest ih =>
    rw [parseAll]
    cases hline : parse line with
    | error fault => cases found <;> simp [hline]
    | ok v =>
      cases found with
      | nil => simp [Fallible.map_cons_ne_nil]
      | cons w found =>
        simp only [Fallible.map_cons_eq_ok, ih, List.map_cons, hline, List.cons.injEq, Except.ok.injEq]

/-- Texts that are the same but for white space of JSON around them. -/
structure Trims (pieces texts : List (List Char)) : Prop where
  parse_eq : pieces.map parse = texts.map parse
  mem : ∀ c, (∃ piece ∈ pieces, c ∈ piece) → ∃ text ∈ texts, c ∈ text
  mem_of_mem : ∀ c, Reader.isGap c = false → (∃ text ∈ texts, c ∈ text) → ∃ piece ∈ pieces, c ∈ piece

theorem Trims.trans {pieces others texts : List (List Char)} (h : Trims pieces others)
    (h' : Trims others texts) : Trims pieces texts where
  parse_eq := h.parse_eq.trans h'.parse_eq
  mem c hc := h'.mem c (h.mem c hc)
  mem_of_mem c hgap hc := h.mem_of_mem c hgap (h'.mem_of_mem c hgap hc)

/-- One of the texts may lose white space around it. -/
theorem trims_of_gaps (front piece back : List Char) (hfront : ∀ c ∈ front, Reader.isGap c = true)
    (hback : ∀ c ∈ back, Reader.isGap c = true)
    (hparse : parse piece = parse (front ++ (piece ++ back))) (before after : List (List Char)) :
    Trims (before ++ piece :: after) (before ++ (front ++ (piece ++ back)) :: after) where
  parse_eq := by simp [hparse]
  mem c hc := by
    simp only [List.mem_append, List.mem_cons, or_and_right, exists_or, exists_eq_left] at hc ⊢
    exact hc.imp_right (Or.imp_left fun h => .inr (.inl h))
  mem_of_mem c hgap hc := by
    have hnotFront : c ∉ front := fun hmem => by simp [hfront c hmem] at hgap
    have hnotBack : c ∉ back := fun hmem => by simp [hback c hmem] at hgap
    simp only [List.mem_append, List.mem_cons, or_and_right, exists_or, exists_eq_left] at hc ⊢
    exact hc.imp_right (Or.imp_left fun h => (h.resolve_left hnotFront).resolve_right hnotBack)

variable {texts : List (List Char)} {values : List (Record Json)}

/-- Texts that are read as these objects, one after the other. -/
def Holds (texts : List (List Char)) (values : List (Record Json)) : Prop :=
  texts.map parse = values.map (fun members => .ok (.obj members))

/-- Every text of a feed is that of an object. -/
theorem Holds.exists_of_mem (h : Holds texts values) {text : List Char} (ht : text ∈ texts) :
    ∃ members, parse text = .ok (.obj members) := by
  have hmem : parse text ∈ values.map (fun members => .ok (.obj members)) :=
    h ▸ List.mem_map_of_mem ht
  obtain ⟨members, -, hmembers⟩ := List.mem_map.mp hmem
  exact ⟨members, hmembers.symm⟩

/-- The empty text is no object. -/
theorem ne_nil_of_parse {cs : List Char} {members : Record Json} (h : parse cs = .ok (.obj members)) :
    cs ≠ [] := by
  rintro rfl
  cases h

/-- The first text loses the white space in front of it. -/
theorem exists_trims_front (hne : texts ≠ []) (h : Holds texts values) :
    ∃ pieces, pieces ≠ [] ∧ Trims pieces texts ∧
      (Text.joinWith '\n' texts).dropWhile Text.isBlank = Text.joinWith '\n' pieces := by
  cases texts with
  | nil => exact absurd rfl hne
  | cons text texts =>
    obtain ⟨members, hmembers⟩ := h.exists_of_mem List.mem_cons_self
    obtain ⟨gaps, hgaps, hall, hparse⟩ := exists_gaps_append hmembers
    obtain ⟨back, hback⟩ := Text.exists_joinWith_cons '\n' texts
    refine ⟨text.dropWhile Text.isBlank :: texts, List.cons_ne_nil _ _, ?_, ?_⟩
    · have htrims := trims_of_gaps gaps (text.dropWhile Text.isBlank) [] hall nofun
        (by rw [List.append_nil, ← hgaps, hparse, hmembers]) [] texts
      rwa [List.append_nil, ← hgaps] at htrims
    · have hcore : (text.dropWhile Text.isBlank).isEmpty = false := by
        simpa using ne_nil_of_parse hparse
      rw [hback, hback, List.dropWhile_append, hcore, if_neg Bool.false_ne_true]

/-- The last text loses the white space behind it. -/
theorem exists_trims_back (hne : texts ≠ []) (h : Holds texts values) :
    ∃ pieces, pieces ≠ [] ∧ Trims pieces texts ∧
      Text.dropEndWhile Text.isBlank (Text.joinWith '\n' texts) = Text.joinWith '\n' pieces := by
  obtain ⟨before, last, rfl⟩ := (List.eq_nil_or_concat' texts).resolve_left hne
  obtain ⟨members, hmembers⟩ := h.exists_of_mem (List.mem_append_right before List.mem_cons_self)
  obtain ⟨gaps, hgaps, hall, -, hparse⟩ := exists_append_gaps hmembers
  obtain ⟨front, hfront⟩ := Text.exists_joinWith_concat '\n' before
  refine ⟨before ++ [Text.dropEndWhile Text.isBlank last], by simp, ?_, ?_⟩
  · have htrims := trims_of_gaps [] (Text.dropEndWhile Text.isBlank last) gaps nofun hall
      (by rw [List.nil_append, ← hgaps, hparse, hmembers]) before []
    rwa [List.nil_append, ← hgaps] at htrims
  · rw [hfront, hfront, Text.dropEndWhile_append_of_ne_nil (ne_nil_of_parse hparse)]

/-- A batch reads the texts, with the white space dropped that is around all of them. -/
theorem exists_trim_joinWith (hne : texts ≠ []) (h : Holds texts values) :
    ∃ pieces, pieces ≠ [] ∧ Trims pieces texts ∧
      Text.trim (Text.joinWith '\n' texts) = Text.joinWith '\n' pieces := by
  obtain ⟨others, hothers, hfront, hdrop⟩ := exists_trims_front hne h
  have hholds : Holds others values := hfront.parse_eq.trans h
  obtain ⟨pieces, hpieces, hback, hdropEnd⟩ := exists_trims_back hothers hholds
  exact ⟨pieces, hpieces, hback.trans hfront, by rw [Text.trim, hdrop, hdropEnd]⟩

/-! ## The two readers -/

/-- A stream gives what the lines hold. -/
theorem filterMap_envelope? (h : Holds texts values) : texts.filterMap LineStream.envelope? = values := by
  induction texts generalizing values with
  | nil =>
    rw [Holds, List.map_nil, eq_comm, List.map_eq_nil_iff] at h
    rw [h, List.filterMap_nil]
  | cons text texts ih =>
    cases values with
    | nil => cases h
    | cons members values =>
      obtain ⟨htext, hrest⟩ := List.cons.inj h
      rw [List.filterMap_cons, (LineStream.envelope?_of_parse htext).2, ih hrest]

/-- Texts that end with a brace, with no line end in them, are the lines of a batch, and none is blank. -/
theorem filter_lines (h : Holds texts values)
    (hfree : ∀ text ∈ texts, ∀ c ∈ text, Text.isLineEnd c = false) :
    (Text.lines (Text.joinWith '\n' texts)).filter (fun line => !(Text.trim line).isEmpty) = texts := by
  have hnotBlank : ∀ text ∈ texts, Text.trim text ≠ [] ∧ text ≠ [] := by
    intro text ht
    obtain ⟨members, hmembers⟩ := h.exists_of_mem ht
    exact ⟨ne_nil_of_parse (parse_trim hmembers).1, ne_nil_of_parse hmembers⟩
  rw [Text.lines_joinWith (fun text ht => (hnotBlank text ht).2) hfree, List.filter_eq_self]
  intro text ht
  simpa using (hnotBlank text ht).1

/-- A batch is no array, but is read line by line. -/
theorem parseBatch_joinWith {pieces : List (List Char)} (hne : pieces ≠ []) (h : Holds pieces values)
    {cs : List Char} (htrim : Text.trim cs = Text.joinWith '\n' pieces) :
    parseBatch cs = parseAll ((Text.lines (Text.joinWith '\n' pieces)).filter
      (fun line => !(Text.trim line).isEmpty)) := by
  cases pieces with
  | nil => exact absurd rfl hne
  | cons piece pieces =>
    obtain ⟨members, hmembers⟩ := h.exists_of_mem List.mem_cons_self
    obtain ⟨back, hback⟩ := Text.exists_joinWith_cons '\n' pieces
    have hhead : (Text.joinWith '\n' (piece :: pieces)).head? ≠ some '[' := by
      rw [hback, List.head?_append_of_ne_nil _ (ne_nil_of_parse hmembers)]
      exact (head?_ne_of_parse hmembers).1
    rw [parseBatch, htrim, if_neg hhead]

/-- Without the three line ends that may stand in a string, there is no line end in the text of an object. -/
theorem Holds.free (h : Holds texts values) (hplain : ∀ text ∈ texts, '\n' ∉ text ∧ '\r' ∉ text)
    (huncut : ∀ text ∈ texts, '\u0085' ∉ text ∧ '\u2028' ∉ text ∧ '\u2029' ∉ text) :
    ∀ text ∈ texts, ∀ c ∈ text, Text.isLineEnd c = false := by
  intro text ht c hc
  obtain ⟨members, hmembers⟩ := h.exists_of_mem ht
  obtain ⟨hfeed, hreturn⟩ := hplain text ht
  obtain ⟨hnext, hline, hparagraph⟩ := huncut text ht
  by_contra hend
  obtain ⟨front, rest, rfl⟩ := List.append_of_mem hc
  obtain ⟨hcut, -, -⟩ := cut_in_string hmembers (by simpa using hend)
    (fun heq => hfeed (heq ▸ hc)) (fun heq => hreturn (heq ▸ hc))
  rcases hcut with rfl | rfl | rfl
  · exact hnext hc
  · exact hline hc
  · exact hparagraph hc

/-- With a line end in a text, there is a line that is no JSON. -/
theorem Holds.exists_line (h : Holds texts values) (hplain : ∀ text ∈ texts, '\n' ∉ text ∧ '\r' ∉ text)
    {c : Char} (hc : Text.isLineEnd c = true) (hmem : ∃ text ∈ texts, c ∈ text) :
    ∃ line ∈ (Text.lines (Text.joinWith '\n' texts)).filter (fun line => !(Text.trim line).isEmpty),
      ∀ v, parse line ≠ .ok v := by
  obtain ⟨front, lineEnd, rest, htext, hend, hline⟩ := Text.exists_line_of_lineEnd hc hmem
  obtain ⟨members, hmembers⟩ := h.exists_of_mem htext
  obtain ⟨hfeed, hreturn⟩ := hplain _ htext
  have hmemEnd : lineEnd ∈ front ++ lineEnd :: rest := by simp
  obtain ⟨-, hblank, hparse⟩ := cut_in_string hmembers hend
    (fun heq => hfeed (heq ▸ hmemEnd)) (fun heq => hreturn (heq ▸ hmemEnd))
  exact ⟨front, List.mem_filter.mpr ⟨hline, by simpa using hblank⟩, hparse⟩

/-- What a batch reads of texts that need not be trimmed. -/
theorem parseAll_lines_eq_ok_iff (h : Holds texts values)
    (hplain : ∀ text ∈ texts, '\n' ∉ text ∧ '\r' ∉ text) (found : List Json) :
    parseAll ((Text.lines (Text.joinWith '\n' texts)).filter (fun line => !(Text.trim line).isEmpty)) =
        .ok found ↔
      (∀ text ∈ texts, '\u0085' ∉ text ∧ '\u2028' ∉ text ∧ '\u2029' ∉ text) ∧
        found = values.map .obj := by
  -- a text that is cut leaves a line that is no JSON
  have huncut_of_read (hread : parseAll ((Text.lines (Text.joinWith '\n' texts)).filter
      (fun line => !(Text.trim line).isEmpty)) = .ok found) {c : Char} (hc : Text.isLineEnd c = true) :
      ∀ text ∈ texts, c ∉ text := by
    intro text ht hmem
    obtain ⟨line, hline, hparse⟩ := h.exists_line hplain hc ⟨text, ht, hmem⟩
    rw [parseAll_eq_ok_iff] at hread
    obtain ⟨v, -, hv⟩ := List.mem_map.mp (hread ▸ List.mem_map_of_mem hline)
    exact hparse v hv.symm
  have hread_of_uncut (huncut : ∀ text ∈ texts, '\u0085' ∉ text ∧ '\u2028' ∉ text ∧ '\u2029' ∉ text) :
      parseAll ((Text.lines (Text.joinWith '\n' texts)).filter
        (fun line => !(Text.trim line).isEmpty)) = .ok (values.map .obj) := by
    rw [filter_lines h (h.free hplain huncut), parseAll_eq_ok_iff, List.map_map]
    exact h
  constructor
  · intro hread
    have huncut : ∀ text ∈ texts, '\u0085' ∉ text ∧ '\u2028' ∉ text ∧ '\u2029' ∉ text := fun text ht =>
      ⟨huncut_of_read hread (by decide) text ht, huncut_of_read hread (by decide) text ht,
        huncut_of_read hread (by decide) text ht⟩
    exact ⟨huncut, Except.ok.inj (hread.symm.trans (hread_of_uncut huncut))⟩
  · rintro ⟨huncut, rfl⟩
    exact hread_of_uncut huncut

/-- Objects one a line are read by a stream, however they arrive in chunks.  A batch reads them exactly if no
string is cut, by a next line, a line separator or a paragraph separator in it; otherwise it reads nothing. -/
theorem line_readers_agree_unless_a_string_is_cut (hne : texts ≠ [])
    (hvalues : texts.map parse = values.map (fun members => .ok (.obj members)))
    (hplain : ∀ text ∈ texts, '\n' ∉ text ∧ '\r' ∉ text) :
    (∀ chunks : List (List Char), chunks.flatten = Text.joinWith '\n' texts →
      ∃ found : List (List (Record Json)), LineStream.readEach chunks = found.map .ok ∧
        found.flatten = values) ∧
    (∀ found, parseBatch (Text.joinWith '\n' texts) = .ok found ↔
      (∀ text ∈ texts, '\u0085' ∉ text ∧ '\u2028' ∉ text ∧ '\u2029' ∉ text) ∧
        found = values.map .obj) := by
  have h : Holds texts values := hvalues
  constructor
  · intro chunks hchunks
    have hlines : Text.splitAt '\n' chunks.flatten = texts := by
      rw [hchunks, Text.splitAt_joinWith hne fun text ht => (hplain text ht).1]
    -- every line is the text of an object, so none is refused
    have hshort : ∀ line ∈ Text.splitAt '\n' chunks.flatten, ∀ fault, ¬ LineStream.Overlong line fault := by
      intro line hline
      obtain ⟨members, hmembers⟩ := h.exists_of_mem (hlines ▸ hline)
      exact (LineStream.envelope?_of_parse hmembers).1
    obtain ⟨found, hread, hfound⟩ := LineStream.readEach_eq hshort
    exact ⟨found, hread, by rw [hfound, hlines, filterMap_envelope? h]⟩
  · obtain ⟨pieces, hpieces, htrims, htrim⟩ := exists_trim_joinWith hne h
    have hholds : Holds pieces values := htrims.parse_eq.trans h
    have hfree (c : Char) (htexts : ∀ text ∈ texts, c ∉ text) : ∀ piece ∈ pieces, c ∉ piece := by
      intro piece hpiece hc
      obtain ⟨text, ht, hmem⟩ := htrims.mem c ⟨piece, hpiece, hc⟩
      exact htexts text ht hmem
    -- trimming takes away white space of JSON only, so other line ends stay where they are
    have hfree_iff {c : Char} (hgap : Reader.isGap c = false) :
        (∀ piece ∈ pieces, c ∉ piece) ↔ ∀ text ∈ texts, c ∉ text := by
      refine ⟨fun hpieces text ht hc => ?_, hfree c⟩
      obtain ⟨piece, hpiece, hmem⟩ := htrims.mem_of_mem c hgap ⟨text, ht, hc⟩
      exact hpieces piece hpiece hmem
    have hplainPieces : ∀ piece ∈ pieces, '\n' ∉ piece ∧ '\r' ∉ piece := fun piece hpiece =>
      ⟨hfree _ (fun text ht => (hplain text ht).1) piece hpiece,
        hfree _ (fun text ht => (hplain text ht).2) piece hpiece⟩
    intro found
    rw [parseBatch_joinWith hpieces hholds htrim, parseAll_lines_eq_ok_iff hholds hplainPieces]
    simp only [forall_and]
    rw [hfree_iff (by decide), hfree_iff (by decide), hfree_iff (by decide)]

/-- White space around the texts, and other white space of Unicode in a string, do not matter. -/
theorem objects_one_a_line :
    let texts : List (List Char) := [" \x7b\"a\": \"x\u00a0\u3000y\"\x7d ".toList, "\t\x7b\"b\": 2\x7d ".toList]
    let values : List (Record Json) := [[("a", .str "x\u00a0\u3000y")], [("b", .ofInt 2)]]
    texts ≠ [] ∧ texts.map parse = values.map (fun members => .ok (.obj members)) ∧
    (∀ text ∈ texts, '\n' ∉ text ∧ '\r' ∉ text) ∧
    parseBatch (Text.joinWith '\n' texts) = .ok (values.map .obj) ∧
    ∃ found : List (List (Record Json)),
      LineStream.readEach [Text.joinWith '\n' texts] = found.map .ok ∧ found.flatten = values := by
  intro texts values
  have hne : texts ≠ [] := List.cons_ne_nil _ _
  have hfirst : parse " \x7b\"a\": \"x\u00a0\u3000y\"\x7d ".toList =
      .ok (.obj [("a", .str "x\u00a0\u3000y")]) := Fallible.toOption_eq_some_iff.mp (by decide +kernel)
  have hsecond : parse "\t\x7b\"b\": 2\x7d ".toList = .ok (.obj [("b", .ofInt 2)]) :=
    Fallible.toOption_eq_some_iff.mp (by decide +kernel)
  have hvalues : texts.map parse = values.map (fun members => .ok (.obj members)) :=
    List.cons_eq_cons.mpr ⟨hfirst, List.cons_eq_cons.mpr ⟨hsecond, rfl⟩⟩
  have hplain : ∀ text ∈ texts, '\n' ∉ text ∧ '\r' ∉ text := by decide
  have huncut : ∀ text ∈ texts, '\u0085' ∉ text ∧ '\u2028' ∉ text ∧ '\u2029' ∉ text := by decide
  obtain ⟨hstream, hbatch⟩ := line_readers_agree_unless_a_string_is_cut hne hvalues hplain
  exact ⟨hne, hvalues, hplain, (hbatch _).mpr ⟨huncut, rfl⟩,
    hstream [Text.joinWith '\n' texts] (List.flatten_singleton)⟩

/-- A line separator in a string: the stream reads the object, and the batch reads nothing. -/
theorem string_cut_at_line_separator :
    let text := "\x7b\"a\": \"x\u2028y\"\x7d".toList
    parse text = .ok (.obj [("a", .str "x\u2028y")]) ∧ '\n' ∉ text ∧ '\r' ∉ text ∧
    LineStream.readEach [text] = [.ok [], .ok [[("a", .str "x\u2028y")]]] ∧
    ∀ found, parseBatch text ≠ .ok found := by
  intro text
  have hline : LineStream.readLine text = .ok (some [("a", .str "x\u2028y")]) :=
    Fallible.toOption_eq_some_iff.mp (by decide +kernel)
  have hcall : LineStream.feed .empty text = (⟨text⟩, .ok []) := rfl
  have hbatch : (parseBatch text).toOption = none := by decide +kernel
  refine ⟨Fallible.toOption_eq_some_iff.mp (by decide +kernel), by decide, by decide, ?_, ?_⟩
  · simp only [LineStream.readEach, LineStream.feedEach, List.foldl_cons, List.foldl_nil,
      LineStream.noting, hcall, LineStream.flush, hline]
    rfl
  · intro found hfound
    rw [hfound] at hbatch
    cases hbatch

end Envelope

end UiSurface
