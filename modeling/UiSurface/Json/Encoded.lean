import UiSurface.Json.Reader
import UiSurface.Text.Encoding

/-!
# Encoded — JSON texts as bytes

What is sent as JSON is sent as bytes, and the bytes themselves say how they are to be read: a mark
of the encoding in front is overlooked, and zeros among the first bytes speak for wide characters.
-/

namespace UiSurface.Json

/-- Why a text is not read by its bytes. -/
inductive EncodedFault where
  /-- the bytes are in none of the encodings -/
  | undecodable
  | text (fault : TextFault)
deriving DecidableEq

def EncodedFault.message : EncodedFault → String
  | undecodable => "the bytes are in no encoding"
  | text fault => fault.message

/-- The characters of a text by the bytes that it is sent as; none if the bytes are in no
encoding. -/
def sentChars? : List Char → Option (List Char)
  | '\ufeff' :: cs => some cs
  | cs =>
    -- four characters have the four bytes that are asked for
    match Text.Encoding.guess ((cs.take 4).flatMap Text.Utf8.encodeChar) with
    | .utf8 => some cs
    | wide => wide.decode? (cs.flatMap Text.Utf8.encodeChar)

/-- Reads a text by the bytes that it is sent as. -/
def ofEncoded (text : String) : Except EncodedFault Json :=
  match sentChars? text.toList with
  | some cs => (readValue cs).mapError .text
  | none => .error .undecodable

end UiSurface.Json
