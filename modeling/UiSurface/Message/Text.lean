import UiSurface.Json.Reader
import UiSurface.Text.Lines

/-!
# Batches as text — a JSON array, or one JSON value a line

A text whose first character, white space aside, is a bracket is one array.  Any other text is read
line by line, blank lines aside; a fault is placed within its line.
-/

namespace UiSurface.Envelope

def parseAll : List (List Char) → Except Json.TextFault (List Json)
  | [] => .ok []
  | line :: rest => match Json.parse line with
    | .ok v => (parseAll rest).map (v :: ·)
    | .error fault => .error fault

/-- The items of an array; a value that is no array is its own only item. -/
def itemsOf : Json → List Json
  | .arr items => items
  | v => [v]

/-- Reads a batch (`parse_messages_json`). -/
def parseBatch (cs : List Char) : Except Json.TextFault (List Json) :=
  let body := Text.trim cs
  if body.head? = some '[' then (Json.parse body).map itemsOf
  else parseAll ((Text.lines body).filter (fun line => !(Text.trim line).isEmpty))

/-- Reads a batch from a text. -/
def ofText (text : String) : Except Json.TextFault (List Json) := parseBatch text.toList

end UiSurface.Envelope
