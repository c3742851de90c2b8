import UiSurface.Text.Quoted
import UiSurface.Text.Utf8

/-!
# Per-cent signs — characters that stand in no address

A character that may not stand in a part of an address is written by its bytes, each of them as a
per-cent sign with two digits.  A per-cent sign without two digits stands for itself.
-/

namespace UiSurface.Percent

def digit? (c : Char) : Option Nat :=
  if '0' ≤ c ∧ c ≤ '9' then some (c.toNat - 48)
  else if 'a' ≤ c ∧ c ≤ 'f' then some (c.toNat - 87)
  else if 'A' ≤ c ∧ c ≤ 'F' then some (c.toNat - 55)
  else none

/-! ## Reading -/

/-- The bytes of a text. -/
def bytes : List Char → List Nat
  | '%' :: a :: b :: rest => match digit? a, digit? b with
    | some high, some low => (16 * high + low) :: bytes rest
    | _, _ => 0x25 :: bytes (a :: b :: rest)
  | c :: rest => Text.Utf8.encodeChar c ++ bytes rest
  | [] => []

def decode (cs : List Char) : List Char := Text.Utf8.decode (bytes cs)

/-! ## Writing -/

/-- A byte by its per-cent sign. -/
def escapeByte (b : Nat) : List Char := '%' :: (Text.hexDigits 2 b).map Char.toUpper

/-- Writes the characters that are not safe by per-cent signs.  A per-cent sign with its two digits
is one already. -/
def escape (safe : Char → Bool) : List Char → List Char
  | '%' :: a :: b :: rest =>
    if (digit? a).isSome && (digit? b).isSome then '%' :: a :: b :: escape safe rest
    else (if safe '%' then ['%'] else escapeByte 0x25) ++ escape safe (a :: b :: rest)
  | c :: rest =>
    (if safe c then [c] else (Text.Utf8.encodeChar c).flatMap escapeByte) ++ escape safe rest
  | [] => []

end UiSurface.Percent
