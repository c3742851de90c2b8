import UiSurface.Proofs.Moves
import UiSurface.Text.Lines

/-!
# Characters that stand in strings only

All that JSON is made of outside its strings is white space and printable characters of ASCII.  Any other
character is a fault, unless it stands in a string; and a control character is one even there.  So where a
text is cut at a line end that is no line feed and no carriage return, it is cut in the middle of a string,
and what is in front of the cut cannot be read.

Main lemmas: `step_of_foreign` (one character), `inString_of_foreign` (what stands before such a
character).
-/

namespace UiSurface.Json.Reader

variable {offset : Nat} {stack : List Frame} {expect : Expect} {c : Char}

/-! ## Foreign characters -/

/-- A character that is no white space of JSON and no printable character of ASCII. -/
def isForeign (c : Char) : Bool := !isGap c && (c.toNat < 0x20 || 0x7F ≤ c.toNat)

/-- The reader is in the middle of a string. -/
def State.InString : State → Prop
  | reading _ _ _ (.string ..) => True
  | _ => False

theorem ne_of_foreign (h : isForeign c = true) {d : Char} (hd : isForeign d = false) : c ≠ d := by
  rintro rfl
  rw [hd] at h
  cases h

/-- No foreign character is a digit. -/
theorem isDigit_of_foreign (h : isForeign c = true) : isDigit c = false := by
  simp only [isForeign, Bool.and_eq_true, Bool.or_eq_true, decide_eq_true_eq] at h
  simp only [isDigit, Bool.and_eq_false_iff, decide_eq_false_iff_not, Char.le_def,
    UInt32.le_iff_toNat_le]
  change ¬ 48 ≤ c.toNat ∨ ¬ c.toNat ≤ 57
  omega

theorem hexValue?_of_foreign (h : isForeign c = true) : hexValue? c = none := by
  simp only [isForeign, Bool.and_eq_true, Bool.or_eq_true, decide_eq_true_eq] at h
  simp only [hexValue?, Bool.and_eq_true, decide_eq_true_eq, Char.le_def, UInt32.le_iff_toNat_le]
  change (if 48 ≤ c.toNat ∧ c.toNat ≤ 57 then _ else if 97 ≤ c.toNat ∧ c.toNat ≤ 102 then _
    else if 65 ≤ c.toNat ∧ c.toNat ≤ 70 then _ else _) = _
  rw [if_neg (by omega), if_neg (by omega), if_neg (by omega)]

/-- The letters of a literal are not foreign. -/
theorem isForeign_of_isAlpha (h : c.isAlpha = true) : isForeign c = false := by
  have hupper : c.isUpper = true ↔ 65 ≤ c.toNat ∧ c.toNat ≤ 90 :=
    decide_eq_true_iff.trans (and_congr UInt32.le_iff_toNat_le UInt32.le_iff_toNat_le)
  have hlower : c.isLower = true ↔ 97 ≤ c.toNat ∧ c.toNat ≤ 122 :=
    (Bool.and_eq_true_iff).trans (and_congr
      (decide_eq_true_iff.trans UInt32.le_iff_toNat_le) (decide_eq_true_iff.trans UInt32.le_iff_toNat_le))
  have hrange : 65 ≤ c.toNat ∧ c.toNat ≤ 90 ∨ 97 ≤ c.toNat ∧ c.toNat ≤ 122 :=
    ((Bool.or_eq_true_iff).mp h).imp hupper.mp hlower.mp
  simp only [isForeign, Bool.and_eq_false_iff, Bool.or_eq_false_iff, decide_eq_false_iff_not]
  omega

/-- No value begins with a foreign character. -/
theorem exists_beginValue_of_foreign (h : isForeign c = true) :
    ∃ failure, beginValue offset stack expect c = .failed failure := by
  unfold beginValue
  split
  case h_10 =>
    rw [isDigit_of_foreign h, if_neg Bool.false_ne_true]
    exact ⟨_, rfl⟩
  all_goals exact absurd h (by decide)

/-- Between tokens such a character is a fault. -/
theorem exists_begin_of_foreign (h : isForeign c = true) :
    ∃ failure, begin offset stack expect c = .failed failure := by
  have hgap : isGap c = false := by
    simp only [isForeign, Bool.and_eq_true, Bool.not_eq_true'] at h
    exact h.1
  have hne : ∀ {d : Char}, isForeign d = false → ¬ c = d := ne_of_foreign h
  unfold begin
  simp (disch := decide) only [hgap, hne, Bool.false_eq_true, if_false]
  split
  all_goals first | exact exists_beginValue_of_foreign h | exact ⟨_, rfl⟩

theorem exists_resume_of_foreign (h : isForeign c = true) (s : State) :
    ∃ failure, s.resume c = .failed failure := by
  cases s with
  | reading offset stack expect token => exact exists_begin_of_foreign h
  | failed failure => exact ⟨failure, rfl⟩

/-- Such a character is a fault, unless it stands in a string and is no control character. -/
theorem step_of_foreign (h : isForeign c = true) {s : State} (hs : s.Proper) :
    (∃ failure, step s c = .failed failure) ∨ s.InString ∧ 0x1F < c.toNat := by
  have hne : ∀ {d : Char}, isForeign d = false → ¬ c = d := ne_of_foreign h
  have hdigit := isDigit_of_foreign h
  cases s with
  | failed failure => exact .inl ⟨failure, rfl⟩
  | reading offset stack expect token =>
    -- no token goes on with a foreign character, except a string
    cases token with
    | string start chars high escaped =>
      by_cases hcontrol : c.toNat ≤ 0x1F
      · simp (disch := decide) only [step, stepReading, hne, if_false, hcontrol, if_true]
        exact .inl ⟨_, rfl⟩
      · exact .inr ⟨trivial, Nat.not_le.mp hcontrol⟩
    | between => exact .inl (exists_begin_of_foreign h)
    | literal start rest value =>
      cases rest with
      | nil => exact .inl ⟨_, rfl⟩
      | cons r rest =>
        obtain ⟨-, ⟨hletters, -⟩, -⟩ := hs
        have hletter : isForeign r = false := isForeign_of_isAlpha (hletters r List.mem_cons_self)
        simp only [step, stepReading, hne hletter, if_false]
        exact .inl ⟨_, rfl⟩
    | whole | fraction | exponent =>
      simp (disch := decide) only [step, stepReading, hne, hdigit, decide_false, Bool.or_self,
        Bool.false_and, Bool.false_eq_true, if_false]
      exact .inl (exists_resume_of_foreign h _)
    | point =>
      simp only [step, stepReading, hdigit, Bool.false_eq_true, if_false]
      exact .inl (exists_reject _ _)
    | mark =>
      have hsign : (c == '-' || c == '+') = false := by
        simp (disch := decide) only [Bool.or_eq_false_iff, beq_eq_false_iff_ne, ne_eq, hne,
          not_false_eq_true, and_self]
      simp only [step, stepReading, hdigit, hsign, Bool.and_false, Bool.false_eq_true, if_false]
      exact .inl (exists_reject _ _)
    | minus start =>
      simp (disch := decide) only [step, stepReading, hne, hdigit, Bool.false_eq_true, if_false]
      exact .inl ⟨_, rfl⟩
    | escape start chars high place =>
      have hplain : unescape? c = none := by
        unfold unescape?
        split
        case h_9 => rfl
        all_goals exact absurd h (by decide)
      simp (disch := decide) only [step, stepReading, hne, hplain, if_false]
      exact .inl ⟨_, rfl⟩
    | unicode start chars high place count value =>
      simp only [step, stepReading, hexValue?_of_foreign h]
      exact .inl ⟨_, rfl⟩

/-! ## Texts with such a character -/

/-- The first fault stays. -/
theorem run_failed (failure : Failure) (cs : List Char) : run (.failed failure) cs = .failed failure := by
  induction cs with
  | nil => rfl
  | cons c cs ih => exact ih

/-- A text that begins with a foreign character is no JSON. -/
theorem exists_run_of_foreign (h : isForeign c = true) (cs : List Char) :
    ∃ failure, run initial (c :: cs) = .failed failure := by
  have hbegin : ∃ failure, begin 0 [] .value c = .failed failure := exists_begin_of_foreign h
  obtain ⟨failure, hfailure⟩ := hbegin
  refine ⟨failure, ?_⟩
  rw [← run_failed failure cs, ← hfailure]
  rfl

/-- A text that is read on from a foreign character is in the middle of a string there. -/
theorem inString_of_foreign (h : isForeign c = true) {before after : List Char}
    (hread : ∀ failure, run initial (before ++ c :: after) ≠ .failed failure) :
    (run initial before).InString ∧ 0x1F < c.toNat := by
  rcases step_of_foreign h (proper_run before) with ⟨failure, hfailure⟩ | hstring
  · refine absurd ?_ (hread failure)
    rw [run_append, ← run_failed failure after, ← hfailure]
    rfl
  · exact hstring

/-- What ends in the middle of a string is a fault. -/
theorem exists_finish_of_inString {s : State} (h : s.InString) :
    ∃ failure, finish s = .error failure := by
  cases s with
  | failed failure => cases h
  | reading offset stack expect token =>
    cases token with
    | string start chars high escaped => cases escaped <;> exact ⟨_, rfl⟩
    | between | literal | minus | whole | point | fraction | mark | exponent | escape | unicode =>
      cases h

/-! ## Line ends and white space -/

/-- Of the characters that end lines, those that are no white space of JSON. -/
theorem isForeign_of_isLineEnd (h : Text.isLineEnd c = true) (hfeed : c ≠ '\n') (hreturn : c ≠ '\r') :
    isForeign c = true := by
  simp only [Text.isLineEnd, Bool.or_eq_true, beq_iff_eq] at h
  rcases h with ((((((((rfl | rfl) | rfl) | rfl) | rfl) | rfl) | rfl) | rfl) | rfl) | rfl
  all_goals first | exact absurd rfl hfeed | exact absurd rfl hreturn | decide

/-- Of the characters that end lines, those that may stand in a string. -/
theorem eq_of_isLineEnd (h : Text.isLineEnd c = true) (hplain : 0x1F < c.toNat) :
    c = '\u0085' ∨ c = '\u2028' ∨ c = '\u2029' := by
  simp only [Text.isLineEnd, Bool.or_eq_true, beq_iff_eq] at h
  rcases h with ((((((((rfl | rfl) | rfl) | rfl) | rfl) | rfl) | rfl) | rfl) | rfl) | rfl
  all_goals first | exact absurd hplain (by decide) | simp

/-- Of the white space of Unicode, that which is none of JSON. -/
theorem isForeign_of_isBlank (h : Text.isBlank c = true) (hgap : isGap c = false) :
    isForeign c = true := by
  have hspace : c.toNat ≠ 0x20 := by
    intro hspace
    obtain rfl : c = ' ' := Char.toNat_inj.mp hspace
    cases hgap
  simp only [Text.isBlank, Text.Ranges.holds, Text.blankRanges, List.any_cons, List.any_nil,
    Bool.or_false, Bool.or_eq_true, Bool.and_eq_true, decide_eq_true_eq] at h
  simp only [isForeign, hgap, Bool.not_false, Bool.true_and, Bool.or_eq_true, decide_eq_true_eq]
  omega

end UiSurface.Json.Reader
