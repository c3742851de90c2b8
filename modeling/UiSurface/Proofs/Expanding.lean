import UiSurface.Proofs.Replacing
import UiSurface.Reference.Clock

/-!
# Expanding — clock templates are replaced all at once

Clock templates begin with a brace and end with one, and have no brace inside except the second and the last but
one.  So none begins within another.  What they are replaced by has no brace at all, and has a character
that is in no template: a colon, a comma or a capital letter.  So it is no part of a template, and no template
that was not there before comes about at its edges.

Main lemmas: `fits_of_plain` (what may stand for a template), `fits_shown`, `expandChars_eq`,
`expansion_is_one_substitution`.
-/

namespace UiSurface.Stamp

open Text

/-! ## Templates and what they show -/

/-- The clock templates. -/
def words : List (List Char) :=
  ["\x7b\x7bcurrent_time\x7d\x7d".toList, "\x7b\x7bcurrent_time_24h\x7d\x7d".toList,
   "\x7b\x7bcurrent_date\x7d\x7d".toList, "\x7b\x7bcurrent_day\x7d\x7d".toList]

/-- What a template shows at a time. -/
def shown (s : Stamp) (w : List Char) : List Char := (s.templates.lookup w).getD w

theorem map_fst_templates (s : Stamp) : s.templates.map Prod.fst = words := rfl

/-- A template shows what it stands for at the time. -/
theorem snd_eq_shown (s : Stamp) : ∀ t ∈ s.templates, t.2 = s.shown t.1 := by
  intro t ht
  simp only [templates, List.mem_cons, List.not_mem_nil, or_false] at ht
  rcases ht with rfl | rfl | rfl | rfl <;> rfl

theorem nil_not_mem_words : [] ∉ words := by decide

/-- Templates do not run into each other. -/
theorem fits_words : ∀ w ∈ words, Fits words w w := by decide +kernel

/-- Every template begins with an opening brace and ends with a closing one. -/
theorem braces_of_mem_words :
    ∀ w ∈ words, w.head? = some '\x7b' ∧ w.getLast? = some '\x7d' := by decide +kernel

/-- A text without braces that has a character which is in no template keeps apart from all of them. -/
theorem fits_of_plain {block : List Char} (hopen : '\x7b' ∉ block) (hclose : '\x7d' ∉ block)
    (hforeign : ∃ c ∈ block, ∀ w ∈ words, c ∉ w) (word : List Char) : Fits words word block := by
  obtain ⟨c, hc, hforeign⟩ := hforeign
  intro w hw
  obtain ⟨hhead, hlast⟩ := braces_of_mem_words w hw
  have hstart : ∀ tail, w <+: tail → '\x7b' ∈ tail :=
    fun tail h => h.subset (List.mem_of_head? hhead)
  -- a block that a template begins with, somewhere in it, has all its characters in the template
  have hpart : ∀ i, ¬ block <+: w.drop i := by
    intro i h
    exact hforeign w hw (List.mem_of_mem_drop (h.subset hc))
  refine ⟨?_, ?_, ?_⟩
  · rintro ⟨i, hi, -, h | h⟩
    · have hend : '\x7d' ∈ w.drop i := by
        refine List.mem_of_getLast? ?_
        rw [List.getLast?_drop, if_neg (by omega), hlast]
      exact hclose (h.subset hend)
    · exact hpart i h
  · rintro ⟨i, hi, -, h | h⟩
    · obtain ⟨after, hafter⟩ := h
      rw [List.drop_eq_getElem_cons hi, List.cons_append] at hafter
      rw [← hafter, List.head?_cons, Option.some.injEq] at hhead
      exact hopen (hhead ▸ List.getElem_mem hi)
    · exact hopen (List.mem_of_mem_drop (hstart _ h))
  · rintro (h | h)
    · exact absurd (hstart _ h) hopen
    · exact absurd h (hpart 0)

/-- A number is written with digits and nothing else. -/
theorem not_mem_natDigits {c : Char} (h : c.isDigit = false) (n : Nat) : c ∉ Number.natDigits n := by
  intro hc
  rw [Nat.isDigit_of_mem_toDigits (by decide) (by decide) hc] at h
  cases h

theorem not_mem_twoDigits {c : Char} (h : c.isDigit = false) (n : Nat) : c ∉ twoDigits n := by
  have hzero : c ≠ '0' := fun heq => by simp [heq] at h
  unfold twoDigits
  split
  · simp [hzero, not_mem_natDigits h]
  · exact not_mem_natDigits h n

theorem dayName_mem (s : Stamp) : dayNames.getD s.weekday "" ∈ dayNames := by
  have hlt : s.weekday < dayNames.length := Nat.mod_lt _ (by decide)
  rw [List.getD_eq_getElem?_getD, List.getElem?_eq_getElem hlt, Option.getD_some]
  exact List.getElem_mem hlt

/-- What a template shows has no brace. -/
theorem not_mem_of_mem_templates (s : Stamp) {c : Char} (hc : c = '\x7b' ∨ c = '\x7d') :
    ∀ t ∈ s.templates, c ∉ t.2 := by
  -- a brace is no digit, no mark of time and in no name
  have hdigit : c.isDigit = false := by rcases hc with rfl | rfl <;> rfl
  have hplain : c ≠ ':' ∧ c ≠ ' ' ∧ c ≠ ',' := by rcases hc with rfl | rfl <;> decide
  have hmark : c ∉ (if s.hour < 12 then " AM" else " PM").toList := by
    rcases hc with rfl | rfl <;> split <;> decide
  have hmonth : c ∉ (monthNames.getD (s.month - 1) "").toList := by
    have hnames : ∀ name ∈ monthNames, c ∉ name.toList := by
      rcases hc with rfl | rfl <;> decide
    rw [List.getD_eq_getElem?_getD]
    cases hname : monthNames[s.month - 1]? with
    | none => simp
    | some name => exact hnames name (List.mem_of_getElem? hname)
  have hday : ∀ name ∈ dayNames, c ∉ name.toList := by
    rcases hc with rfl | rfl <;> decide
  intro t ht
  simp only [templates, List.mem_cons, List.not_mem_nil, or_false] at ht
  rcases ht with rfl | rfl | rfl | rfl
  · simp [halfDayTime, not_mem_natDigits hdigit, not_mem_twoDigits hdigit, hplain, hmark]
  · simp [dayTime, not_mem_twoDigits hdigit, hplain]
  · rw [date]
    simp only [List.mem_append, List.mem_cons, hmonth, not_mem_natDigits hdigit, hplain, or_self,
      not_false_eq_true]
  · exact hday _ s.dayName_mem

/-- What a template shows has a character that is in no template. -/
theorem exists_foreign_of_mem_templates (s : Stamp) :
    ∀ t ∈ s.templates, ∃ c ∈ t.2, ∀ w ∈ words, c ∉ w := by
  -- the words have small letters only, and neither colon nor comma
  have hcolon : ∀ w ∈ words, ':' ∉ w := by decide
  have hcomma : ∀ w ∈ words, ',' ∉ w := by decide
  have hsmall : ∀ w ∈ words, w.all (!·.isUpper) = true := by decide
  have hday : ∀ name ∈ dayNames, name.toList.any Char.isUpper = true := by decide
  intro t ht
  simp only [templates, List.mem_cons, List.not_mem_nil, or_false] at ht
  rcases ht with rfl | rfl | rfl | rfl
  · exact ⟨':', by simp [halfDayTime], hcolon⟩
  · exact ⟨':', by simp [dayTime], hcolon⟩
  · exact ⟨',', by simp [date], hcomma⟩
  · obtain ⟨c, hc, hupper⟩ := List.any_eq_true.mp (hday _ s.dayName_mem)
    refine ⟨c, hc, fun w hw hmem => ?_⟩
    have hnot := List.all_eq_true.mp (hsmall w hw) c hmem
    rw [hupper] at hnot
    cases hnot

theorem exists_template_of_mem_words (s : Stamp) {w : List Char} (hw : w ∈ words) :
    ∃ t ∈ s.templates, w = t.1 ∧ s.shown w = t.2 := by
  rw [← map_fst_templates s] at hw
  obtain ⟨t, ht, rfl⟩ := List.mem_map.mp hw
  exact ⟨t, ht, rfl, (s.snd_eq_shown t ht).symm⟩

/-- What a template shows keeps apart from all templates. -/
theorem fits_shown (s : Stamp) : ∀ w ∈ words, Fits words w (s.shown w) := by
  intro w hw
  obtain ⟨t, ht, rfl, hshown⟩ := s.exists_template_of_mem_words hw
  rw [hshown]
  exact fits_of_plain (s.not_mem_of_mem_templates (Or.inl rfl) t ht)
    (s.not_mem_of_mem_templates (Or.inr rfl) t ht) (s.exists_foreign_of_mem_templates t ht) t.1

/-- No template shows itself. -/
theorem shown_ne (s : Stamp) {w : List Char} (hw : w ∈ words) : s.shown w ≠ w := by
  intro hself
  obtain ⟨t, ht, rfl, hshown⟩ := s.exists_template_of_mem_words hw
  have hbrace := List.mem_of_head? (braces_of_mem_words t.1 hw).1
  rw [← hself, hshown] at hbrace
  exact s.not_mem_of_mem_templates (Or.inl rfl) t ht hbrace

/-! ## Expansion -/

/-- In whatever order the templates are replaced, it is the exchange of all of them at once. -/
theorem foldl_replace_eq (s : Stamp) {order : List (List Char × List Char)}
    (horder : order.Perm s.templates) (cs : List Char) :
    order.foldl (fun text t => replace t.1 t.2 text) cs = assemble s.shown (cut words 0 cs) :=
  foldl_replace_cut nil_not_mem_words fits_words s.fits_shown
    (s.map_fst_templates ▸ horder.map Prod.fst) (by decide)
    (fun t ht => s.snd_eq_shown t (horder.subset ht)) cs

/-- To replace the templates one after the other is to put for each word what it shows. -/
theorem expandChars_eq (s : Stamp) (cs : List Char) :
    s.expandChars cs = assemble s.shown (cut words 0 cs) :=
  s.foldl_replace_eq (List.Perm.refl _) cs

/-- No template is left in a text that has been expanded. -/
theorem not_infix_expandChars (s : Stamp) (cs : List Char) :
    ∀ w ∈ words, ¬ w <:+: s.expandChars cs := by
  rintro w hw ⟨before, after, h⟩
  rw [List.append_assoc, expandChars_eq] at h
  have hself := ((append_eq_assemble_iff nil_not_mem_words fits_words s.fits_shown hw
    (faithful_cut nil_not_mem_words 0 cs)).mp h).1
  exact s.shown_ne hw hself

/-- A text without any of the words stays as it is. -/
theorem expandChars_of_not_infix (s : Stamp) {cs : List Char} (h : ∀ w ∈ words, ¬ w <:+: cs) :
    s.expandChars cs = cs := by
  have hunchanged : ∀ table : List (List Char × List Char), (∀ t ∈ table, t.1 ∈ words) →
      table.foldl (fun text t => replace t.1 t.2 text) cs = cs := by
    intro table htable
    induction table with
    | nil => rfl
    | cons t table ih =>
      obtain ⟨hword, hrest⟩ := List.forall_mem_cons.mp htable
      rw [List.foldl_cons, replace_of_not_infix t.2 (h t.1 hword), ih hrest]
  exact hunchanged s.templates fun t ht => s.map_fst_templates ▸ List.mem_map_of_mem ht

/-- Expansion is one substitution.  The text is cut into templates and plain characters in one pass from the
left, where the cut finds exactly the templates that occur in the text.  Then what each template shows is put
in its place, and all else stays.  No template is left, so to expand again does nothing, at whatever time.
And to replace the templates in another order gives the same. -/
theorem expansion_is_one_substitution (s : Stamp) (text : String) :
    (s.expand text).toList = assemble s.shown (cut words 0 text.toList) ∧
    (text.toList = assemble id (cut words 0 text.toList) ∧
      ∀ w ∈ words, ∀ before after, text.toList = before ++ w ++ after ↔ ∃ front back,
        cut words 0 text.toList = front ++ .word w :: back ∧
          before = assemble id front ∧ after = assemble id back) ∧
    (∀ w ∈ words, ¬ w <:+: (s.expand text).toList) ∧
    (∀ later : Stamp, later.expand (s.expand text) = s.expand text) ∧
    (∀ order : List (List Char × List Char), order.Perm s.templates →
      order.foldl (fun cs t => replace t.1 t.2 cs) text.toList = (s.expand text).toList) := by
  have hexpand : (s.expand text).toList = s.expandChars text.toList := String.toList_ofList
  have hcut : assemble id (cut words 0 text.toList) = text.toList := by
    rw [assemble_cut nil_not_mem_words, List.drop_zero]
  have hleft := s.not_infix_expandChars text.toList
  rw [hexpand]
  refine ⟨s.expandChars_eq _, ⟨hcut.symm, fun w hw before after => ?_⟩, hleft, fun later => ?_, ?_⟩
  · have hfaithful := faithful_cut nil_not_mem_words 0 text.toList
    -- an occurrence of a word is one of the pieces that are cut
    have hfind : before ++ (w ++ after) = assemble id (cut words 0 text.toList) ↔ _ :=
      append_eq_assemble_iff (f := id) nil_not_mem_words fits_words fits_words hw hfaithful
    rw [hcut] at hfind
    rw [List.append_assoc, eq_comm, hfind]
    exact and_iff_right rfl
  · rw [expand, hexpand, later.expandChars_of_not_infix hleft, expand]
  · intro order horder
    rw [s.foldl_replace_eq horder, expandChars_eq]

example : Stamp.expand ⟨2026, 10, 19, 15, 7⟩
    "\x7b\x7b\x7bcurrent_day\x7d\x7d\x7d \x7b\x7bcurrent_\x7b\x7bcurrent_time\x7d\x7dtime\x7d\x7d" =
      "\x7bMonday\x7d \x7b\x7bcurrent_3:07 PMtime\x7d\x7d" := by decide +kernel

end UiSurface.Stamp
