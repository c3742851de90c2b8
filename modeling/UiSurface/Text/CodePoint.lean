/-!
# Code points — what a text is made of

A text is a sequence of code points.  Nearly all of them are characters.  The others are surrogates, the halves
of the pairs that write a character beyond U+FFFF in units of sixteen bits.  JSON names them by escapes, and a
surrogate without a partner, as in `"\ud800"`, is read into the text as it is, though no encoding has it.

No `Char` is a surrogate.  The places U+DD800 to U+DDFFF, of which Unicode makes no use, stand for them, so that
no two texts become one; what is left out are the texts that hold these places for themselves.

Main lemmas: `ofPoint_point` (a character is found again by the code point that it stands for), `point_of_lt`,
`precedes_trans`, `precedes_total` and `precedes_antisymm` (texts in the order of their code points).
-/

namespace UiSurface.Text

/-- Whether a code point is half of a pair. -/
def isSurrogate (n : Nat) : Bool := 0xD800 ≤ n && n ≤ 0xDFFF

/-- How far behind a surrogate the place is that stands for it. -/
def standIn : Nat := 0xD0000

/-- The character that stands for a code point. -/
def ofPoint (n : Nat) : Char := Char.ofNat (if isSurrogate n then standIn + n else n)

/-- The code point that a character stands for. -/
def point (c : Char) : Nat :=
  if isSurrogate (c.toNat - standIn) then c.toNat - standIn else c.toNat

/-- Whether a character stands for a surrogate. -/
def isLone (c : Char) : Bool := isSurrogate (point c)

/-- Whether characters stand before others, or are the same, in the order of code points. -/
def charsPrecede : List Char → List Char → Bool
  | [], _ => true
  | _ :: _, [] => false
  | c :: cs, d :: ds => point c < point d || (c == d && charsPrecede cs ds)

/-- Whether a text stands before another, or is the same, in the order of code points. -/
def precedes (s t : String) : Bool := charsPrecede s.toList t.toList

theorem isSurrogate_iff {n : Nat} : isSurrogate n = true ↔ 0xD800 ≤ n ∧ n ≤ 0xDFFF := by
  simp [isSurrogate]

/-- A character is itself no surrogate. -/
theorem isSurrogate_toNat (c : Char) : isSurrogate c.toNat = false := by
  rw [← Bool.not_eq_true, isSurrogate_iff]
  have hvalid : c.toNat < 0xD800 ∨ (0xDFFF < c.toNat ∧ c.toNat < 0x110000) := c.valid
  omega

/-- A character is found again by the code point that it stands for. -/
theorem ofPoint_point (c : Char) : ofPoint (point c) = c := by
  unfold point
  split
  · rename_i hstands
    have hplace : standIn + (c.toNat - standIn) = c.toNat := by
      have := isSurrogate_iff.mp hstands
      omega
    rw [ofPoint, if_pos hstands, hplace, Char.ofNat_toNat]
  · rw [ofPoint, isSurrogate_toNat, if_neg Bool.false_ne_true, Char.ofNat_toNat]

theorem point_injective : Function.Injective point := fun c d h => by
  rw [← ofPoint_point c, h, ofPoint_point]

/-- Below the places that stand for surrogates a character is its own code point. -/
theorem point_of_lt {c : Char} (h : c.toNat < 0xDD800) : point c = c.toNat := by
  have hplace : isSurrogate (c.toNat - standIn) = false := by
    rw [← Bool.not_eq_true, isSurrogate_iff, standIn]
    omega
  rw [point, hplace, if_neg Bool.false_ne_true]

theorem isLone_of_lt {c : Char} (h : c.toNat < 0xDD800) : isLone c = false := by
  rw [isLone, point_of_lt h, isSurrogate_toNat]

/-! ## The order of texts -/

/-- The order of texts goes from one to the next. -/
theorem charsPrecede_trans {cs ds es : List Char} (hcd : charsPrecede cs ds = true)
    (hde : charsPrecede ds es = true) : charsPrecede cs es = true := by
  induction cs generalizing ds es with
  | nil => rfl
  | cons c cs ih =>
    rcases ds with _ | ⟨d, ds⟩
    · cases hcd
    rcases es with _ | ⟨e, es⟩
    · cases hde
    simp only [charsPrecede, Bool.or_eq_true, Bool.and_eq_true, decide_eq_true_eq, beq_iff_eq] at *
    -- both differ here, or one of them does, or the order is told further on
    rcases hcd with hlt | ⟨rfl, hcd⟩
    · rcases hde with hlt' | ⟨rfl, -⟩
      · exact Or.inl (by omega)
      · exact Or.inl hlt
    · rcases hde with hlt' | ⟨rfl, hde⟩
      · exact Or.inl hlt'
      · exact Or.inr ⟨rfl, ih hcd hde⟩

/-- Of two texts one stands before the other. -/
theorem charsPrecede_total (cs ds : List Char) :
    (charsPrecede cs ds || charsPrecede ds cs) = true := by
  induction cs generalizing ds with
  | nil => rfl
  | cons c cs ih =>
    rcases ds with _ | ⟨d, ds⟩
    · rfl
    simp only [charsPrecede, Bool.or_eq_true, Bool.and_eq_true, decide_eq_true_eq, beq_iff_eq]
    rcases Nat.lt_trichotomy (point c) (point d) with hlt | heq | hgt
    · exact Or.inl (Or.inl hlt)
    · -- the heads are the same character, so the tails decide
      obtain rfl := point_injective heq
      rcases Bool.or_eq_true_iff.mp (ih ds) with h | h
      · exact Or.inl (Or.inr ⟨rfl, h⟩)
      · exact Or.inr (Or.inr ⟨rfl, h⟩)
    · exact Or.inr (Or.inl hgt)

/-- Two texts that stand before each other are the same. -/
theorem charsPrecede_antisymm {cs ds : List Char} (hcd : charsPrecede cs ds = true)
    (hdc : charsPrecede ds cs = true) : cs = ds := by
  induction cs generalizing ds with
  | nil =>
    rcases ds with _ | ⟨d, ds⟩
    · rfl
    · cases hdc
  | cons c cs ih =>
    rcases ds with _ | ⟨d, ds⟩
    · cases hcd
    simp only [charsPrecede, Bool.or_eq_true, Bool.and_eq_true, decide_eq_true_eq, beq_iff_eq] at hcd hdc
    rcases hcd with hlt | ⟨rfl, hcd⟩
    · rcases hdc with hgt | ⟨rfl, -⟩ <;> omega
    · rcases hdc with hlt | ⟨-, hdc⟩
      · omega
      · rw [ih hcd hdc]

theorem precedes_trans {s t u : String} (hst : precedes s t = true) (htu : precedes t u = true) :
    precedes s u = true := charsPrecede_trans hst htu

theorem precedes_total (s t : String) : (precedes s t || precedes t s) = true :=
  charsPrecede_total _ _

/-- Texts of which each stands before the other are the same. -/
theorem precedes_antisymm {s t : String} (hst : precedes s t = true) (hts : precedes t s = true) :
    s = t := String.toList_inj.mp (charsPrecede_antisymm hst hts)

end UiSurface.Text
