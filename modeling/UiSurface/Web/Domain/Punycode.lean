import UiSurface.Text.Lines

/-!
# Punycode — any text as letters, digits and hyphens

The characters of ASCII are written first; the last hyphen ends them.  Then come the others in
ascending order, each by how far one has to count from the last: through the places of the text so
far, and through the characters.  A count is written with digits of changing weight, the last of
which is below a threshold.
-/

namespace UiSurface.Domain.Punycode

/-! ## Digits -/

def digit (n : Nat) : Nat := if n < 26 then 0x61 + n else 0x30 + (n - 26)

/-- The value of a digit; capital letters are as good as small ones. -/
def digit? (c : Nat) : Option Nat :=
  if 0x61 ≤ c ∧ c ≤ 0x7A then some (c - 0x61)
  else if 0x41 ≤ c ∧ c ≤ 0x5A then some (c - 0x41)
  else if 0x30 ≤ c ∧ c ≤ 0x39 then some (c - 0x30 + 26)
  else none

/-- The threshold of a place: a digit below it ends a count. -/
def threshold (place bias : Nat) : Nat := min 26 (max 1 (36 * (place + 1) - bias))

theorem one_le_threshold (place bias : Nat) : 1 ≤ threshold place bias := by
  unfold threshold
  omega

/-! ## Bias -/

/-- The count divided by 35 until it is at most 455, with 36 for each time. -/
def shrink (places count : Nat) : Nat × Nat :=
  if 455 < count then shrink (places + 36) (count / 35) else (places, count)
termination_by count
decreasing_by omega

/-- The bias behind a count, with so many characters in the text; the first count is the
farthest. -/
def adapt (isFirst : Bool) (count length : Nat) : Nat :=
  let count := if isFirst then count / 700 else count / 2
  let (places, count) := shrink 0 (count + count / length)
  places + 36 * count / (count + 38)

/-! ## Reading -/

/-- What is known between two digits. -/
structure Reader where
  /-- the text so far -/
  text : List Nat
  /-- the character that was counted last -/
  char : Nat
  /-- the place behind it -/
  index : Nat
  bias : Nat
  isFirst : Bool
  /-- the count so far, the weight of the next digit, and its place -/
  count : Nat
  weight : Nat
  place : Nat

namespace Reader

/-- The start, behind the characters of ASCII. -/
def start (text : List Nat) : Reader := ⟨text, 0x80, 0, 72, true, 0, 1, 0⟩

/-- Puts a character in its place when its count has ended; none beyond the last code point. -/
def insert? (r : Reader) (count : Nat) : Option Reader :=
  let places := r.text.length + 1
  let char := r.char + (r.index + count) / places
  let index := (r.index + count) % places
  if 0x10FFFF < char then none
  else some ⟨r.text.take index ++ char :: r.text.drop index, char, index + 1,
    adapt r.isFirst count places, false, 0, 1, 0⟩

/-- Takes a digit. -/
def take? (r : Reader) (n : Nat) : Option Reader :=
  let count := r.count + n * r.weight
  let t := threshold r.place r.bias
  if n < t then r.insert? count
  else some { r with count := count, weight := r.weight * (36 - t), place := r.place + 1 }

end Reader

/-- Reads a text.  It may turn out to hold halves of pairs, which are no characters. -/
def decode? (ns : List Nat) : Option (List Nat) := do
  -- without a hyphen there are no characters of ASCII
  let (ascii, counts) := (Text.splitLast 0x2D ns).getD ([], ns)
  let digits ← counts.mapM digit?
  let reader ← digits.foldlM Reader.take? (Reader.start ascii)
  -- a count that is begun has to end
  if reader.place = 0 then some reader.text else none

/-! ## Writing -/

/-- The digits of a count. -/
def countDigits (bias place count : Nat) : List Nat :=
  let t := threshold place bias
  if count < t then [count]
  else (t + (count - t) % (36 - t)) :: countDigits bias (place + 1) ((count - t) / (36 - t))
termination_by count
decreasing_by
  have ht : 1 ≤ threshold place bias := one_le_threshold place bias
  have hd : (count - threshold place bias) / (36 - threshold place bias)
      ≤ count - threshold place bias := Nat.div_le_self _ _
  omega

/-- What is known between two characters. -/
structure Writer where
  written : List Nat
  /-- how far it is from the last character -/
  count : Nat
  /-- how many characters are written -/
  length : Nat
  bias : Nat
  isFirst : Bool

namespace Writer

/-- Counts past a place of the text, and writes the count if the character at hand stands there. -/
def visit (char : Nat) (w : Writer) (n : Nat) : Writer :=
  if n < char then { w with count := w.count + 1 }
  else if n = char then
    ⟨w.written ++ (countDigits w.bias 0 w.count).map digit, 0, w.length + 1,
      adapt w.isFirst w.count (w.length + 1), false⟩
  else w

/-- Writes all occurrences of a character, coming from another one. -/
def pass (ns : List Nat) (w : Writer) (previous char : Nat) : Writer :=
  let w := { w with count := w.count + (char - previous) * (w.length + 1) }
  ns.foldl (visit char) w

/-- Writes all occurrences of characters in ascending order.  Behind one pass the next begins with
the character that follows. -/
def passes (ns : List Nat) (previous : Nat) (w : Writer) : List Nat → Writer
  | [] => w
  | char :: chars =>
    let w := pass ns w previous char
    passes ns (char + 1) { w with count := w.count + 1 } chars

end Writer

/-- Puts a number into ascending numbers, unless it is among them. -/
def insertNew (n : Nat) : List Nat → List Nat
  | [] => [n]
  | m :: ms => if n < m then n :: m :: ms else if n = m then m :: ms else m :: insertNew n ms

def encode (ns : List Nat) : List Nat :=
  let ascii := ns.filter (· < 0x80)
  let others := (ns.filter (0x80 ≤ ·)).foldr insertNew []
  let start := if ascii.isEmpty then [] else ascii ++ [0x2D]
  (Writer.passes ns 0x80 ⟨start, 0, ascii.length, 72, true⟩ others).written

end UiSurface.Domain.Punycode
