import UiSurface.Text.Ranges

/-!
# Blank — white space, and texts without it at their ends

White space is the Unicode property White_Space together with the four information separators
U+001C to U+001F.  It is wider than core's notion, which knows four characters.

Main lemma: `trim_replicate` (nothing but white space trims to nothing).
-/

namespace UiSurface.Text

/-- White space, 29 code points (Unicode 14). -/
def blankRanges : Ranges :=
  [(0x09, 0x0D), (0x1C, 0x20), (0x85, 0x85), (0xA0, 0xA0), (0x1680, 0x1680), (0x2000, 0x200A),
   (0x2028, 0x2029), (0x202F, 0x202F), (0x205F, 0x205F), (0x3000, 0x3000)]

def isBlank (c : Char) : Bool := blankRanges.holds c.toNat

/-! ## Ends of a text -/

/-- Drops what satisfies `p` from the end. -/
def dropEndWhile (p : Char → Bool) (cs : List Char) : List Char :=
  (cs.reverse.dropWhile p).reverse

/-- The text without white space at either end. -/
def trim (cs : List Char) : List Char := dropEndWhile isBlank (cs.dropWhile isBlank)

theorem trim_replicate {c : Char} (h : isBlank c = false) (n : Nat) :
    trim (List.replicate n c) = List.replicate n c := by
  simp [trim, dropEndWhile, h]

end UiSurface.Text
