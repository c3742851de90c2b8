import UiSurface.Text.CodePoint
import UiSurface.Text.Utf8

/-!
# Encodings — which characters the bytes of a text stand for

A text that begins with a character of ASCII shows by the zeros among its first bytes how many bytes
make a unit, and which of them comes first.
-/

namespace UiSurface.Text

/-- How characters are written as bytes. -/
inductive Encoding where
  | utf8
  | utf16 (highFirst : Bool)
  | utf32 (highFirst : Bool)
deriving DecidableEq

namespace Encoding

/-- The encoding that the first bytes of a text speak for. -/
def guess : List Nat → Encoding
  | a :: b :: c :: d :: _ =>
    if a = 0 then (if b = 0 then .utf32 true else .utf16 true)
    else if b = 0 then (if c = 0 ∧ d = 0 then .utf32 false else .utf16 false)
    else .utf8
  -- of shorter texts only one of two bytes can be wide
  | [a, b] => if a = 0 then .utf16 true else if b = 0 then .utf16 false else .utf8
  | _ => .utf8

/-- The number that bytes are. -/
def unitOf (highFirst : Bool) (bytes : List Nat) : Nat :=
  (if highFirst then bytes else bytes.reverse).foldl (fun n b => 0x100 * n + b) 0

/-- The units of two bytes; none if a byte is left over. -/
def units16? (highFirst : Bool) : List Nat → Option (List Nat)
  | [] => some []
  | a :: b :: rest => (units16? highFirst rest).map (unitOf highFirst [a, b] :: ·)
  | _ => none

/-- The units of four bytes; none if bytes are left over. -/
def units32? (highFirst : Bool) : List Nat → Option (List Nat)
  | [] => some []
  | a :: b :: c :: d :: rest => (units32? highFirst rest).map (unitOf highFirst [a, b, c, d] :: ·)
  | _ => none

/-- The characters of units of two bytes; half of a pair stays as it is. -/
def join : List Nat → List Char
  | high :: low :: rest =>
    if 0xD800 ≤ high ∧ high ≤ 0xDBFF ∧ 0xDC00 ≤ low ∧ low ≤ 0xDFFF then
      Char.ofNat (0x10000 + 0x400 * (high - 0xD800) + (low - 0xDC00)) :: join rest
    else ofPoint high :: join (low :: rest)
  | [unit] => [ofPoint unit]
  | [] => []

/-- The characters of bytes; none if the bytes are in no such encoding. -/
def decode? : Encoding → List Nat → Option (List Char)
  | .utf8, bytes => some (Utf8.decode bytes)
  | .utf16 highFirst, bytes => (units16? highFirst bytes).map join
  | .utf32 highFirst, bytes =>
    (units32? highFirst bytes).bind fun units =>
      if units.all (· ≤ 0x10FFFF) then some (units.map ofPoint) else none

end Encoding

end UiSurface.Text
