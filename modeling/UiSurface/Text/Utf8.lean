/-!
# UTF-8 — characters out of bytes

Bytes that encode no character are replaced: each longest beginning of an encoding that breaks off
becomes one replacement character, and so does a byte that begins none.  Overlong forms and
surrogates are no encodings, which the bounds of the second byte see to.
-/

namespace UiSurface.Text.Utf8

/-- What a decoder knows between two bytes. -/
inductive State where
  /-- nothing is begun -/
  | ground
  /-- so many more bytes belong to the character, the next within bounds, and these bits are read -/
  | inside (missing low high bits : Nat)
deriving DecidableEq

/-- What stands for bytes that encode nothing. -/
def replacement : Char := '\ufffd'

/-- Begins a character with a byte. -/
def start (b : Nat) : List Char × State :=
  if b < 0x80 then ([Char.ofNat b], .ground)
  else if 0xC2 ≤ b ∧ b ≤ 0xDF then ([], .inside 1 0x80 0xBF (b - 0xC0))
  -- bounds that shut out overlong forms, surrogates and what lies beyond Unicode
  else if b = 0xE0 then ([], .inside 2 0xA0 0xBF (b - 0xE0))
  else if b = 0xED then ([], .inside 2 0x80 0x9F (b - 0xE0))
  else if 0xE1 ≤ b ∧ b ≤ 0xEF then ([], .inside 2 0x80 0xBF (b - 0xE0))
  else if b = 0xF0 then ([], .inside 3 0x90 0xBF (b - 0xF0))
  else if b = 0xF4 then ([], .inside 3 0x80 0x8F (b - 0xF0))
  else if 0xF1 ≤ b ∧ b ≤ 0xF3 then ([], .inside 3 0x80 0xBF (b - 0xF0))
  else ([replacement], .ground)

def step (s : State) (b : Nat) : List Char × State :=
  match s with
  | .ground => start b
  | .inside missing low high bits =>
    if low ≤ b ∧ b ≤ high then
      let bits := 64 * bits + (b - 0x80)
      if missing ≤ 1 then ([Char.ofNat bits], .ground)
      else ([], .inside (missing - 1) 0x80 0xBF bits)
    else
      -- what was begun breaks off, and the byte begins anew
      let (chars, s) := start b
      (replacement :: chars, s)

/-- Decodes bytes from a state on. -/
def decodeFrom (s : State) : List Nat → List Char
  | [] => if s = .ground then [] else [replacement]
  | b :: bs =>
    let (chars, s) := step s b
    chars ++ decodeFrom s bs

/-- Decodes bytes. -/
def decode (bytes : List Nat) : List Char := decodeFrom .ground bytes

def encodeChar (c : Char) : List Nat :=
  let n := c.toNat
  if n < 0x80 then [n]
  else if n < 0x800 then [0xC0 + n / 64, 0x80 + n % 64]
  else if n < 0x10000 then [0xE0 + n / 4096, 0x80 + n / 64 % 64, 0x80 + n % 64]
  else [0xF0 + n / 262144, 0x80 + n / 4096 % 64, 0x80 + n / 64 % 64, 0x80 + n % 64]

end UiSurface.Text.Utf8
