import UiSurface.Json.Writer

/-!
# ASCII — what is written on one line

A value written on one line is printable ASCII throughout: a number has digits, a sign, a point and the mark
of an exponent, or a name, and in a string everything else is escaped.  So there is no line end in it, and
the text of a value is one line of any text that it stands in.

Main lemmas: `isAscii_quoted` (a string), `isAscii_toText` (a value).
-/

namespace UiSurface

/-- Characters that are printable ASCII, the space among them. -/
def Text.IsAscii (cs : List Char) : Prop := ∀ c ∈ cs, 0x20 ≤ c.toNat ∧ c.toNat < 0x7F

namespace Text

section

variable {cs ds : List Char}

instance : Decidable (IsAscii cs) := List.decidableBAll _ _

@[simp] theorem isAscii_nil : IsAscii [] := nofun

@[simp] theorem isAscii_cons {c : Char} :
    IsAscii (c :: cs) ↔ (0x20 ≤ c.toNat ∧ c.toNat < 0x7F) ∧ IsAscii cs := List.forall_mem_cons

@[simp] theorem isAscii_append : IsAscii (cs ++ ds) ↔ IsAscii cs ∧ IsAscii ds := List.forall_mem_append

theorem isAscii_replicate {c : Char} (h : 0x20 ≤ c.toNat ∧ c.toNat < 0x7F) (n : Nat) :
    IsAscii (List.replicate n c) := by
  intro d hd
  rwa [List.eq_of_mem_replicate hd]

theorem IsAscii.take (h : IsAscii cs) (n : Nat) : IsAscii (cs.take n) :=
  fun c hc => h c (List.mem_of_mem_take hc)

theorem IsAscii.drop (h : IsAscii cs) (n : Nat) : IsAscii (cs.drop n) :=
  fun c hc => h c (List.mem_of_mem_drop hc)

theorem IsAscii.tail (h : IsAscii cs) : IsAscii cs.tail := fun c hc => h c (List.mem_of_mem_tail hc)

/-- There is no line end in printable ASCII. -/
theorem IsAscii.not_mem_newline (h : IsAscii cs) : '\n' ∉ cs :=
  fun hc => absurd (h '\n' hc) (by decide)

/-- Texts of printable ASCII are joined to one, if what is put between them is such a text. -/
theorem isAscii_intercalate {sep : String} (hsep : IsAscii sep.toList) {texts : List String}
    (h : ∀ text ∈ texts, IsAscii text.toList) : IsAscii (String.intercalate sep texts).toList := by
  induction texts with
  | nil => exact isAscii_nil
  | cons text texts ih =>
    obtain ⟨htext, htexts⟩ := List.forall_mem_cons.mp h
    cases texts with
    | nil => simpa using htext
    | cons next more =>
      rw [String.intercalate_cons_cons, String.toList_append, String.toList_append]
      simp only [isAscii_append]
      exact ⟨⟨htext, hsep⟩, ih htexts⟩

theorem isAscii_hexDigits (width n : Nat) : IsAscii (hexDigits width n) := by
  induction width generalizing n with
  | zero => exact isAscii_nil
  | succ width ih =>
    have hdigit : ∀ digit < 16, IsAscii [hexDigit digit] := by decide
    exact isAscii_append.mpr ⟨ih _, hdigit _ (Nat.mod_lt n (by decide))⟩

end

end Text

open Text

/-! ## Numbers -/

namespace Number

theorem isAscii_natDigits (n : Nat) : IsAscii (natDigits n) := by
  intro c hc
  have hdigit : c.isDigit = true := Nat.isDigit_of_mem_toDigits (by decide) (by decide) hc
  simp only [Char.isDigit, Bool.and_eq_true, decide_eq_true_eq, ge_iff_le, UInt32.le_iff_toNat_le] at hdigit
  change 48 ≤ c.toNat ∧ c.toNat ≤ 57 at hdigit
  omega

theorem isAscii_intText (n : Int) : IsAscii (intText n).toList := by
  rw [intText, String.toList_ofList]
  split <;> simp [isAscii_natDigits]

theorem isAscii_exponentDigits (e : Int) : IsAscii (exponentDigits e) := by
  unfold exponentDigits
  dsimp only
  split <;> split <;> simp [isAscii_natDigits]

/-- A double is laid out with digits, a point, a sign and the letter of the exponent. -/
theorem isAscii_layOut (d : Decimal) : IsAscii (layOut d) := by
  have hdigits : IsAscii (natDigits d.digits) := isAscii_natDigits _
  have hzeros (n : Nat) : IsAscii (List.replicate n '0') := isAscii_replicate (by decide) n
  unfold layOut
  dsimp only
  repeat' split
  all_goals simp [hdigits, hdigits.take, hdigits.drop, hdigits.tail, hzeros, isAscii_exponentDigits]

theorem isAscii_floatText (x : Binary64) : IsAscii (floatText .json x).toList := by
  unfold floatText
  split
  · decide
  · split <;> decide
  · dsimp only
    rw [String.toList_ofList]
    repeat' split
    all_goals simp [isAscii_layOut]

theorem isAscii_text (n : Number) : IsAscii (n.text .json).toList := by
  cases n with
  | int n => exact isAscii_intText n
  | float x => exact isAscii_floatText x

end Number

/-! ## Strings and values -/

namespace Json

theorem isAscii_unicodeEscape (n : Nat) : IsAscii (unicodeEscape n) := by
  simp [unicodeEscape, isAscii_hexDigits]

theorem isAscii_escapePoint (n : Nat) : IsAscii (escapePoint n) := by
  unfold escapePoint
  split
  · exact isAscii_unicodeEscape n
  · exact isAscii_append.mpr ⟨isAscii_unicodeEscape _, isAscii_unicodeEscape _⟩

/-- What is no printable ASCII is written by its code point. -/
theorem isAscii_escapeChar (c : Char) : IsAscii (escapeChar c) := by
  unfold escapeChar
  repeat' split
  all_goals simp_all [isAscii_escapePoint]

/-- A string in quotes is printable ASCII, whatever stands in it. -/
theorem isAscii_quoted (s : String) : IsAscii (quoted s).toList := by
  have hchars : IsAscii (s.toList.flatMap escapeChar) := by
    intro c hc
    obtain ⟨d, -, hd⟩ := List.mem_flatMap.mp hc
    exact isAscii_escapeChar d c hd
  rw [quoted, String.toList_ofList]
  simpa using hchars

mutual

/-- A value on one line is printable ASCII. -/
theorem isAscii_toText : ∀ v : Json, IsAscii v.toText.toList
  | .null => by decide
  | .bool b => by cases b <;> decide
  | .num n => n.isAscii_text
  | .str s => isAscii_quoted s
  | .arr items => by
    have hitems : IsAscii (String.intercalate ", " (itemTexts items)).toList :=
      isAscii_intercalate (by decide) (isAscii_itemTexts items)
    simp only [toText, String.toList_append, isAscii_append]
    exact ⟨⟨by decide, hitems⟩, by decide⟩
  | .obj members => by
    have hmembers : IsAscii (String.intercalate ", " (memberTexts members)).toList :=
      isAscii_intercalate (by decide) (isAscii_memberTexts members)
    simp only [toText, String.toList_append, isAscii_append]
    exact ⟨⟨by decide, hmembers⟩, by decide⟩

theorem isAscii_itemTexts : ∀ items : List Json, ∀ text ∈ itemTexts items, IsAscii text.toList
  | [] => nofun
  | v :: vs => List.forall_mem_cons.mpr ⟨isAscii_toText v, isAscii_itemTexts vs⟩

theorem isAscii_memberTexts :
    ∀ members : List (String × Json), ∀ text ∈ memberTexts members, IsAscii text.toList
  | [] => nofun
  | (k, v) :: ms => by
    refine List.forall_mem_cons.mpr ⟨?_, isAscii_memberTexts ms⟩
    simpa using ⟨isAscii_quoted k, isAscii_toText v⟩

end

end Json

end UiSurface
