/-!
# Lines — cutting a text at a separator or at line boundaries

Two ways to cut a text.  `splitAt` cuts at every occurrence of one item and keeps empty pieces, so
joining the pieces gives the text back.  `lines` cuts at every boundary that Unicode calls a line
end; a boundary at the end of the text opens no further line.  `splitLast` cuts at one place.
`unifyLineEnds` makes a line feed of every carriage return.

Main lemma: `splitAt_joinWith` (pieces without the item are got back).
-/

namespace UiSurface.Text

/-! ## Cutting at one item -/

variable {α : Type} [DecidableEq α]

/-- The pieces of a list between the occurrences of `sep`.  There is always at least one. -/
def splitAt (sep : α) : List α → List (List α)
  | [] => [[]]
  | c :: cs =>
    if c = sep then [] :: splitAt sep cs
    else match splitAt sep cs with
      | [] => [[c]]
      | piece :: pieces => (c :: piece) :: pieces

/-- Puts `sep` between the pieces. -/
def joinWith (sep : α) : List (List α) → List α
  | [] => []
  | [piece] => piece
  | piece :: pieces => piece ++ sep :: joinWith sep pieces

theorem splitAt_ne_nil (sep : α) (cs : List α) : splitAt sep cs ≠ [] := by
  cases cs with
  | nil => simp [splitAt]
  | cons c cs =>
    unfold splitAt
    split
    · simp
    · split <;> simp

/-- A list without the separator is one piece. -/
theorem splitAt_of_not_mem {sep : α} {cs : List α} (h : sep ∉ cs) : splitAt sep cs = [cs] := by
  induction cs with
  | nil => rfl
  | cons c cs ih =>
    have hc : c ≠ sep := fun hc => h (by simp [hc])
    have hcs : sep ∉ cs := fun hcs => h (by simp [hcs])
    simp [splitAt, hc, ih hcs]

/-- The first piece ends at the first separator. -/
theorem splitAt_append_cons {sep : α} {piece : List α} (h : sep ∉ piece) (rest : List α) :
    splitAt sep (piece ++ sep :: rest) = piece :: splitAt sep rest := by
  induction piece with
  | nil => simp [splitAt]
  | cons c piece ih =>
    have hc : c ≠ sep := fun hc => h (by simp [hc])
    have hpiece : sep ∉ piece := fun hpiece => h (by simp [hpiece])
    simp [splitAt, hc, ih hpiece]

/-- Pieces without the separator are got back when they are joined and cut. -/
theorem splitAt_joinWith {sep : α} {pieces : List (List α)} (hne : pieces ≠ [])
    (h : ∀ piece ∈ pieces, sep ∉ piece) : splitAt sep (joinWith sep pieces) = pieces := by
  induction pieces with
  | nil => exact absurd rfl hne
  | cons piece pieces ih =>
    obtain ⟨hpiece, hrest⟩ := List.forall_mem_cons.mp h
    cases pieces with
    | nil => exact splitAt_of_not_mem hpiece
    | cons next more =>
      have hjoin : joinWith sep (piece :: next :: more) =
          piece ++ sep :: joinWith sep (next :: more) := rfl
      rw [hjoin, splitAt_append_cons hpiece, ih (List.cons_ne_nil _ _) hrest]

/-- The list before the last occurrence of `sep`, and the list behind it. -/
def splitLast (sep : α) (as : List α) : Option (List α × List α) :=
  match as.reverse.dropWhile (· != sep) with
  | [] => none
  | _ :: before => some (before.reverse, (as.reverse.takeWhile (· != sep)).reverse)

/-! ## Cutting at line boundaries -/

/-- A character that ends a line: line feed, vertical tab, form feed, carriage return, the file,
group and record separators, next line, line separator, paragraph separator. -/
def isLineEnd (c : Char) : Bool :=
  c == '\n' || c == '\x0b' || c == '\x0c' || c == '\r' || c == '\x1c' || c == '\x1d' || c == '\x1e' ||
    c == '\u0085' || c == '\u2028' || c == '\u2029'

/-- The lines of a text, `acc` being the current line read so far, backwards.  A carriage return
and the line feed after it are one boundary: the line feed is passed over when `afterReturn`. -/
def linesFrom (acc : List Char) (afterReturn : Bool) : List Char → List (List Char)
  | [] => if acc.isEmpty then [] else [acc.reverse]
  | c :: cs =>
    -- this boundary has been counted
    if afterReturn && c == '\n' then linesFrom [] false cs
    else if isLineEnd c then acc.reverse :: linesFrom [] (c == '\r') cs
    else linesFrom (c :: acc) false cs

/-- The lines of a text, without their ends. -/
def lines (cs : List Char) : List (List Char) := linesFrom [] false cs

/-! ## Carriage returns -/

/-- A text where a carriage return, with the line feed behind it if there is one, is a line feed. -/
def unifyLineEnds : List Char → List Char
  | '\r' :: '\n' :: cs => '\n' :: unifyLineEnds cs
  | c :: cs => (if c = '\r' then '\n' else c) :: unifyLineEnds cs
  | [] => []

end UiSurface.Text
