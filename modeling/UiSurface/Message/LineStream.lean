import UiSurface.Json.Reader
import UiSurface.Text.Lines

/-!
# Line streams — envelopes out of a text that arrives in chunks

A stream keeps what follows the last line feed and reads every line before it.  A line that is no
JSON object is passed over: blank lines, code fences, the brackets and commas of an array with one
element a line, and anything malformed.
-/

namespace UiSurface

/-- A stream of lines, as the text after the last line feed. -/
structure LineStream where
  buffer : List Char
deriving DecidableEq

namespace LineStream

def empty : LineStream := ⟨[]⟩

/-- What opens and closes a block of code. -/
def fence : List Char := ['\x60', '\x60', '\x60']

/-- Whether a trimmed line holds no value: it is blank, a code fence, or a bracket on its own. -/
def isFrame (line : List Char) : Bool :=
  line.isEmpty || fence.isPrefixOf line || line == ['['] || line == [']']

/-- Reads one line (`_parse_line`).  The commas at its end are dropped.  Only an integer with too many
digits is a fault; any other line that is no object is none. -/
def readLine (line : List Char) : Except TooManyDigits (Option (Record Json)) :=
  let line := Text.trim line
  -- a bracket is looked for before the commas are dropped
  if isFrame line then .ok none
  else match Json.parse (Text.dropEndWhile (· == ',') line) with
    | .ok v => .ok v.members?
    | .error (.digits fault) => .error fault
    | .error (.malformed ..) => .ok none

/-- Reads the pieces of a text between line feeds: each but the last is a line, the last is kept.  A
fault ends the reading, and what follows its line is kept. -/
def readPieces : List (List Char) → LineStream × Except TooManyDigits (List (Record Json))
  | [] => (empty, .ok [])
  | [rest] => (⟨rest⟩, .ok [])
  | line :: rest => match readLine line with
    | .error fault => (⟨Text.joinWith '\n' rest⟩, .error fault)
    | .ok found =>
      let (stream, later) := readPieces rest
      (stream, later.map (found.toList ++ ·))

/-- Takes a chunk, and gives the envelopes of the lines that it completes. -/
def feed (s : LineStream) (chunk : List Char) :
    LineStream × Except TooManyDigits (List (Record Json)) :=
  readPieces (Text.splitAt '\n' (s.buffer ++ chunk))

/-- Reads what is left as the last line. -/
def flush (s : LineStream) : LineStream × Except TooManyDigits (List (Record Json)) :=
  (empty, (readLine s.buffer).map Option.toList)

end LineStream

end UiSurface
