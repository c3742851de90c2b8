import Mathlib.Data.List.Basic
import Mathlib.Logic.Function.Basic
import UiSurface.Text.Replace

/-!
# Replacing several words — one after the other, or all at once

To replace words at once, a text is cut from the left into words and plain characters, and the words are
exchanged in the pieces.  To replace them one after the other comes to the same, if the words and what they
are exchanged for keep apart: wherever a word is looked for, it neither runs into another block of the text nor
begins within one.  `Crosses` tells when one block begins within another, and `Fits` what is asked of a
block that stands for a word.

The first fact is where words are found while some of them are exchanged already: at the pieces that still
hold them, and nowhere else.  For if a word were found from a plain character on, it would end before the
next block, so it would have been found when the text was cut.

Main lemmas: `assemble_cut` and `faithful_cut` (a cut loses nothing and overlooks no word),
`prefix_assemble_iff` (a word that is found has no other block in it), `append_eq_assemble_iff` (where the words
are), `replace_assemble` (one replacement is one exchange), `foldl_replace_assemble` (many are, in any
order).
-/

namespace UiSurface.Text

/-! ## Cutting a text into words -/

/-- A piece of a text: a plain character, or a word. -/
inductive Piece where
  | plain (c : Char)
  | word (w : List Char)

/-- Cuts a text into words and plain characters, from the left, passing over `skip` characters that
belong to the last word. -/
def cut (words : List (List Char)) : Nat → List Char → List Piece
  | _, [] => []
  | skip + 1, _ :: cs => cut words skip cs
  | 0, c :: cs => match words.find? (·.isPrefixOf (c :: cs)) with
    | some w => .word w :: cut words (w.length - 1) cs
    | none => .plain c :: cut words 0 cs

/-- What stands for a piece if `f` says what stands for each word. -/
def Piece.block (f : List Char → List Char) : Piece → List Char
  | plain c => [c]
  | word w => f w

/-- The text that is made of pieces if `f` says what stands for each word. -/
def assemble (f : List Char → List Char) (pieces : List Piece) : List Char :=
  pieces.flatMap (Piece.block f)

@[simp] theorem assemble_nil (f : List Char → List Char) : assemble f [] = [] := rfl

@[simp] theorem assemble_plain (f : List Char → List Char) (c : Char) (rest : List Piece) :
    assemble f (.plain c :: rest) = c :: assemble f rest := rfl

@[simp] theorem assemble_word (f : List Char → List Char) (w : List Char) (rest : List Piece) :
    assemble f (.word w :: rest) = f w ++ assemble f rest := rfl

/-- A cut that overlooks no word: none begins at a plain character. -/
def Faithful (words : List (List Char)) : List Piece → Prop
  | [] => True
  | .plain c :: rest => (∀ w ∈ words, ¬ w <+: c :: assemble id rest) ∧ Faithful words rest
  | .word w :: rest => w ∈ words ∧ Faithful words rest

/-- Cutting loses nothing. -/
theorem assemble_cut {words : List (List Char)} (hne : [] ∉ words) (skip : Nat) (cs : List Char) :
    assemble id (cut words skip cs) = cs.drop skip := by
  fun_induction cut words skip cs with
  | case1 => simp
  | case2 skip c cs ih => rw [ih, List.drop_succ_cons]
  | case3 c cs w hfind ih =>
    have hprefix := List.find?_some hfind
    obtain ⟨rest, hrest⟩ := List.isPrefixOf_iff_prefix.mp hprefix
    rw [assemble_word, ih, id, List.drop_zero]
    cases w with
    | nil => exact absurd (List.mem_of_find?_eq_some hfind) hne
    | cons d w =>
      obtain ⟨rfl, rfl⟩ := List.cons.inj hrest
      simp
  | case4 c cs hfind ih => rw [assemble_plain, ih, List.drop_zero, List.drop_zero]

/-- Of what stands for words, only the words that were cut for matter. -/
theorem assemble_congr {words : List (List Char)} {f g : List Char → List Char}
    (h : ∀ w ∈ words, f w = g w) {pieces : List Piece} (hpieces : Faithful words pieces) :
    assemble f pieces = assemble g pieces := by
  induction pieces with
  | nil => rfl
  | cons piece rest ih =>
    cases piece with
    | plain c => rw [assemble_plain, assemble_plain, ih hpieces.2]
    | word w => rw [assemble_word, assemble_word, h w hpieces.1, ih hpieces.2]

/-- A cut is faithful to the words. -/
theorem faithful_cut {words : List (List Char)} (hne : [] ∉ words) (skip : Nat) (cs : List Char) :
    Faithful words (cut words skip cs) := by
  fun_induction cut words skip cs with
  | case1 => trivial
  | case2 skip c cs ih => exact ih
  | case3 c cs w hfind ih => exact ⟨List.mem_of_find?_eq_some hfind, ih⟩
  | case4 c cs hfind ih =>
    refine ⟨fun w hw hprefix => ?_, ih⟩
    rw [assemble_cut hne, List.drop_zero] at hprefix
    exact List.find?_eq_none.mp hfind w hw (List.isPrefixOf_iff_prefix.mpr hprefix)

/-! ## Blocks that keep apart -/

/-- Of two texts, one begins with the other. -/
def Meets (a b : List Char) : Prop := a <+: b ∨ b <+: a

/-- In some text the second block begins within the first, behind its beginning. -/
def Crosses (a b : List Char) : Prop := ∃ i < a.length, 0 < i ∧ Meets (a.drop i) b

/-- A block may stand for a word: it crosses no word and no word crosses it, and no word meets it unless
the block is the word itself. -/
def Fits (words : List (List Char)) (word block : List Char) : Prop :=
  ∀ w ∈ words, ¬ Crosses w block ∧ ¬ Crosses block w ∧ (Meets w block → word = w ∧ block = w)

instance (a b : List Char) : Decidable (Meets a b) := inferInstanceAs (Decidable (_ ∨ _))

instance (a b : List Char) : Decidable (Crosses a b) :=
  inferInstanceAs (Decidable (∃ i < a.length, 0 < i ∧ Meets (a.drop i) b))

instance (words : List (List Char)) (word block : List Char) : Decidable (Fits words word block) :=
  inferInstanceAs (Decidable (∀ w ∈ words, _))

/-- Two beginnings of one text meet. -/
theorem meets_of_prefix_append {a b rest : List Char} (h : a <+: b ++ rest) : Meets a b :=
  List.prefix_or_prefix_of_prefix h (List.prefix_append b rest)

/-- Where nothing crosses, no later part of a block meets the other block. -/
theorem not_meets_of_not_crosses {front tail b : List Char} (h : ¬ Crosses (front ++ tail) b)
    (hfront : front ≠ []) (htail : tail ≠ []) : ¬ Meets tail b := by
  intro hmeets
  have hlength : 0 < front.length := List.length_pos_iff.mpr hfront
  have htail : 0 < tail.length := List.length_pos_iff.mpr htail
  refine h ⟨front.length, ?_, hlength, by rwa [List.drop_left]⟩
  rw [List.length_append]
  omega

/-! ## Where words are found -/

section

variable {words : List (List Char)} {f : List Char → List Char}

/-- Whether a word goes on in what has been made of pieces does not depend on what stands for words. -/
theorem prefix_assemble_iff (hid : ∀ w ∈ words, Fits words w w) (hf : ∀ w ∈ words, Fits words w (f w))
    {front tail : List Char} (hw : front ++ tail ∈ words) (hfront : front ≠ []) {pieces : List Piece}
    (hpieces : Faithful words pieces) : tail <+: assemble f pieces ↔ tail <+: assemble id pieces := by
  induction pieces generalizing front tail with
  | nil => rfl
  | cons piece rest ih =>
    cases tail with
    | nil => simp
    | cons t tail =>
      cases piece with
      | plain c =>
        rw [assemble_plain, assemble_plain, List.cons_prefix_cons, List.cons_prefix_cons]
        have happend : front ++ [t] ++ tail ∈ words := by simpa using hw
        rw [ih happend (by simp) hpieces.2]
      | word w =>
        -- no block begins within a word, so the word does not go on
        have happart : ∀ block, Fits words w block → ∀ after, ¬ t :: tail <+: block ++ after :=
          fun block hblock after hprefix =>
            not_meets_of_not_crosses (hblock _ hw).1 hfront (List.cons_ne_nil t tail)
              (meets_of_prefix_append hprefix)
        rw [assemble_word, assemble_word]
        exact iff_of_false (happart _ (hf w hpieces.1) _) (happart _ (hid w hpieces.1) _)

/-- A word at the beginning is the first piece, and stands for itself. -/
theorem exists_eq_word_of_prefix (hne : [] ∉ words) (hid : ∀ w ∈ words, Fits words w w)
    (hf : ∀ w ∈ words, Fits words w (f w)) {w : List Char} (hw : w ∈ words) {pieces : List Piece}
    (hpieces : Faithful words pieces) (h : w <+: assemble f pieces) :
    f w = w ∧ ∃ rest, pieces = .word w :: rest := by
  cases pieces with
  | nil => exact absurd (List.prefix_nil.mp h ▸ hw) hne
  | cons piece rest =>
    cases piece with
    | plain c =>
      cases w with
      | nil => exact absurd hw hne
      | cons d tail =>
        -- then it would begin at a plain character of the cut as well
        obtain ⟨rfl, htail⟩ := List.cons_prefix_cons.mp h
        have happend : [d] ++ tail ∈ words := hw
        have hspelled := (prefix_assemble_iff hid hf happend (by simp) hpieces.2).mp htail
        exact absurd (List.cons_prefix_cons.mpr ⟨rfl, hspelled⟩) (hpieces.1 _ hw)
    | word w' =>
      obtain ⟨rfl, hblock⟩ := (hf w' hpieces.1 w hw).2.2 (meets_of_prefix_append h)
      exact ⟨hblock, rest, rfl⟩

/-- Where a word is found in what has been made of pieces, there is a piece with that word, and it stands
for itself. -/
theorem append_eq_assemble_iff (hne : [] ∉ words) (hid : ∀ w ∈ words, Fits words w w)
    (hf : ∀ w ∈ words, Fits words w (f w)) {w : List Char} (hw : w ∈ words) {pieces : List Piece}
    (hpieces : Faithful words pieces) {before after : List Char} :
    before ++ (w ++ after) = assemble f pieces ↔ f w = w ∧ ∃ front back,
      pieces = front ++ .word w :: back ∧ before = assemble f front ∧ after = assemble f back := by
  constructor
  · intro h
    induction pieces generalizing before with
    | nil =>
      obtain ⟨-, h⟩ := List.append_eq_nil_iff.mp h
      exact absurd ((List.append_eq_nil_iff.mp h).1 ▸ hw) hne
    | cons piece rest ih =>
      cases before with
      | nil =>
        obtain ⟨hself, rest', heq⟩ :=
          exists_eq_word_of_prefix hne hid hf hw hpieces ⟨after, h⟩
        obtain ⟨rfl, rfl⟩ := List.cons.inj heq
        rw [List.nil_append, assemble_word, hself] at h
        exact ⟨hself, [], rest, rfl, rfl, List.append_cancel_left h⟩
      | cons b before =>
        cases piece with
        | plain c =>
          rw [assemble_plain, List.cons_append] at h
          obtain ⟨rfl, hrest⟩ := List.cons.inj h
          obtain ⟨hself, front, back, rfl, rfl, rfl⟩ := ih hpieces.2 hrest
          exact ⟨hself, .plain b :: front, back, rfl, rfl, rfl⟩
        | word w' =>
          rw [assemble_word] at h
          rcases List.append_eq_append_iff.mp h with ⟨tail, hblock, hrest⟩ | ⟨before', hbefore, hrest⟩
          · -- the word would begin within the block, or right behind it
            cases tail with
            | nil =>
              rw [List.nil_append] at hrest
              obtain ⟨hself, front, back, rfl, hfront, rfl⟩ :=
                ih hpieces.2 (show [] ++ (w ++ after) = assemble f rest from hrest)
              refine ⟨hself, .word w' :: front, back, rfl, ?_, rfl⟩
              rw [assemble_word, hblock, ← hfront, List.append_nil, List.append_nil]
            | cons t tail =>
              have hcross := (hf w' hpieces.1 w hw).2.1
              rw [hblock] at hcross
              exact absurd (Or.symm (meets_of_prefix_append ⟨after, hrest⟩))
                (not_meets_of_not_crosses hcross (List.cons_ne_nil b before) (List.cons_ne_nil t tail))
          · obtain ⟨hself, front, back, rfl, rfl, rfl⟩ := ih hpieces.2 hrest.symm
            refine ⟨hself, .word w' :: front, back, rfl, ?_, rfl⟩
            rw [hbefore, assemble_word]
  · rintro ⟨hself, front, back, rfl, rfl, rfl⟩
    rw [assemble, assemble, assemble, List.flatMap_append, List.flatMap_cons]
    show _ = _ ++ (f w ++ _)
    rw [hself]

/-! ## Replacing -/

theorem replaceFrom_length_append (w v front cs : List Char) :
    replaceFrom w v front.length (front ++ cs) = replaceFrom w v 0 cs := by
  induction front with
  | nil => rfl
  | cons c front ih => exact ih

/-- A block that a word does not begin in is passed over. -/
theorem replaceFrom_append {w block cs : List Char} (v : List Char)
    (h : ∀ front tail, block = front ++ tail → tail ≠ [] → ¬ w <+: tail ++ cs) :
    replaceFrom w v 0 (block ++ cs) = block ++ replaceFrom w v 0 cs := by
  induction block with
  | nil => rfl
  | cons c block ih =>
    have hhere : w.isPrefixOf (c :: (block ++ cs)) = false := by
      have hprefix := h [] (c :: block) rfl (List.cons_ne_nil c block)
      rw [← List.isPrefixOf_iff_prefix] at hprefix
      exact Bool.not_eq_true _ ▸ hprefix
    rw [List.cons_append, replaceFrom, hhere, if_neg (by simp), List.cons_append, ih]
    intro front tail hblock htail
    exact h (c :: front) tail (by rw [hblock, List.cons_append]) htail

/-- To replace a word is to exchange what stands for it. -/
theorem replace_assemble (hne : [] ∉ words) (hid : ∀ w ∈ words, Fits words w w)
    (hf : ∀ w ∈ words, Fits words w (f w)) {w : List Char} (hw : w ∈ words) (hself : f w = w)
    (v : List Char) {pieces : List Piece} (hpieces : Faithful words pieces) :
    replace w v (assemble f pieces) = assemble (Function.update f w v) pieces := by
  unfold replace
  induction pieces with
  | nil => rfl
  | cons piece rest ih =>
    cases piece with
    | plain c =>
      -- a word does not begin at a character that was left over
      have hhere : w.isPrefixOf (c :: assemble f rest) = false := by
        by_contra h
        have hprefix := List.isPrefixOf_iff_prefix.mp (Bool.not_eq_false _ ▸ h)
        obtain ⟨-, rest', heq⟩ := exists_eq_word_of_prefix hne hid hf hw hpieces hprefix
        cases heq
      rw [assemble_plain, replaceFrom, hhere, if_neg (by simp), assemble_plain, ih hpieces.2]
    | word w' =>
      rw [assemble_word, assemble_word]
      by_cases heq : w' = w
      · subst heq
        rw [hself, Function.update_self]
        cases w' with
        | nil => exact absurd hw hne
        | cons c tail =>
          have hhere : (c :: tail).isPrefixOf (c :: (tail ++ assemble f rest)) = true :=
            List.isPrefixOf_iff_prefix.mpr (List.prefix_append (c :: tail) _)
          rw [List.cons_append, replaceFrom, hhere, if_pos rfl, List.length_cons,
            Nat.add_sub_cancel, replaceFrom_length_append, ih hpieces.2]
      · rw [Function.update_of_ne heq, replaceFrom_append, ih hpieces.2]
        -- nor does it begin within another one's replacement, even to end behind it
        intro front tail hblock htail hprefix
        obtain ⟨-, hcross, hmeets⟩ := hf w' hpieces.1 w hw
        have htogether := meets_of_prefix_append hprefix
        cases front with
        | nil => exact heq (hmeets (hblock ▸ htogether)).1
        | cons c front =>
          rw [hblock] at hcross
          exact not_meets_of_not_crosses hcross (List.cons_ne_nil c front) htail htogether.symm

/-- To replace words one after the other is to exchange what stands for them. -/
theorem foldl_replace_assemble (hne : [] ∉ words) (hid : ∀ w ∈ words, Fits words w w)
    {value : List Char → List Char} (hvalue : ∀ w ∈ words, Fits words w (value w))
    (hf : ∀ w ∈ words, Fits words w (f w)) {table : List (List Char × List Char)}
    (hnodup : (table.map Prod.fst).Nodup)
    (htable : ∀ t ∈ table, t.1 ∈ words ∧ f t.1 = t.1 ∧ t.2 = value t.1) {pieces : List Piece}
    (hpieces : Faithful words pieces) :
    table.foldl (fun cs t => replace t.1 t.2 cs) (assemble f pieces) =
      assemble (fun w => if w ∈ table.map Prod.fst then value w else f w) pieces := by
  induction table generalizing f with
  | nil => simp
  | cons t table ih =>
    obtain ⟨⟨hw, hself, hexchange⟩, hrest⟩ := List.forall_mem_cons.mp htable
    rw [List.map_cons, List.nodup_cons] at hnodup
    -- what has been put in place of a word fits as the word did
    have hupdate : ∀ w ∈ words, Fits words w (Function.update f t.1 t.2 w) := by
      intro w hword
      by_cases heq : w = t.1
      · rw [heq, Function.update_self, hexchange]
        exact hvalue _ hw
      · rw [Function.update_of_ne heq]
        exact hf w hword
    rw [List.foldl_cons, replace_assemble hne hid hf hw hself _ hpieces, ih hupdate hnodup.2]
    · congr 1
      funext w
      by_cases heq : w = t.1
      · simp [heq, hnodup.1, hexchange]
      · rw [Function.update_of_ne heq]
        simp only [List.map_cons, List.mem_cons, heq, false_or]
    · intro u hu
      obtain ⟨hword, hstays, hvalueu⟩ := hrest u hu
      have hdistinct : u.1 ≠ t.1 := fun heq => hnodup.1 (heq ▸ List.mem_map_of_mem hu)
      exact ⟨hword, by rw [Function.update_of_ne hdistinct, hstays], hvalueu⟩

/-- In whatever order the words of a table are replaced in a text, it is the exchange of all of them in its
cut. -/
theorem foldl_replace_cut (hne : [] ∉ words) (hid : ∀ w ∈ words, Fits words w w)
    {value : List Char → List Char} (hvalue : ∀ w ∈ words, Fits words w (value w))
    {table : List (List Char × List Char)} (hwords : (table.map Prod.fst).Perm words)
    (hnodup : words.Nodup) (htable : ∀ t ∈ table, t.2 = value t.1) (cs : List Char) :
    table.foldl (fun cs t => replace t.1 t.2 cs) cs = assemble value (cut words 0 cs) := by
  have hfaithful := faithful_cut hne 0 cs
  have hentries : ∀ t ∈ table, t.1 ∈ words ∧ id t.1 = t.1 ∧ t.2 = value t.1 :=
    fun t ht => ⟨hwords.subset (List.mem_map_of_mem ht), rfl, htable t ht⟩
  calc table.foldl (fun cs t => replace t.1 t.2 cs) cs
      = table.foldl (fun cs t => replace t.1 t.2 cs) (assemble id (cut words 0 cs)) := by
        rw [assemble_cut hne, List.drop_zero]
    _ = assemble (fun w => if w ∈ table.map Prod.fst then value w else id w) (cut words 0 cs) :=
        foldl_replace_assemble hne hid hvalue hid (hwords.nodup_iff.mpr hnodup) hentries hfaithful
    _ = assemble value (cut words 0 cs) :=
        assemble_congr (fun w hw => if_pos (hwords.symm.subset hw)) hfaithful

end

/-- A word that does not occur is replaced nowhere. -/
theorem replace_of_not_infix {w cs : List Char} (v : List Char) (h : ¬ w <:+: cs) :
    replace w v cs = cs := by
  have hnowhere : ∀ front tail, cs = front ++ tail → tail ≠ [] → ¬ w <+: tail ++ [] := by
    rintro front tail rfl - ⟨after, hafter⟩
    rw [List.append_nil] at hafter
    exact h ⟨front, after, by rw [List.append_assoc, hafter]⟩
  have hpass := replaceFrom_append v hnowhere
  rw [List.append_nil] at hpass
  rw [replace, hpass]
  simp [replaceFrom]

end UiSurface.Text
