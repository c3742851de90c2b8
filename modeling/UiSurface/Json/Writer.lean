import UiSurface.Json.Basic
import UiSurface.Text.Quoted

/-!
# Writing JSON text, and values in running text

`toText` writes a value on one line, with a space after each comma and colon and with everything
outside printable ASCII escaped; `toCompact` without the spaces, and with characters beyond ASCII as
themselves, so that not every value can be sent so.  `toLines` writes it over several lines, indented
by two spaces a level.  `display` shows a value in running text, where strings stand between single
quotes and the three constants have names of their own.
-/

namespace UiSurface.Json

/-! ## Strings -/

/-- A code point below 0x10000 as an escape. -/
def unicodeEscape (n : Nat) : List Char := '\\' :: 'u' :: Text.hexDigits 4 n

/-- A code point by its escape; one above U+FFFF becomes a pair of surrogates. -/
def escapePoint (n : Nat) : List Char :=
  if n < 0x10000 then unicodeEscape n
  else
    unicodeEscape (0xD800 + (n - 0x10000) / 0x400) ++ unicodeEscape (0xDC00 + (n - 0x10000) % 0x400)

/-- One character of a string in ASCII. -/
def escapeChar (c : Char) : List Char :=
  if c = '"' then ['\\', '"']
  else if c = '\\' then ['\\', '\\']
  else if c = '\n' then ['\\', 'n']
  else if c = '\r' then ['\\', 'r']
  else if c = '\t' then ['\\', 't']
  else if c = '\x0c' then ['\\', 'f']
  else if c = '\x08' then ['\\', 'b']
  else if 0x20 ≤ c.toNat ∧ c.toNat < 0x7F then [c]
  else escapePoint (Text.point c)

/-- A string in quotes, in ASCII. -/
def quoted (s : String) : String := String.ofList ('"' :: s.toList.flatMap escapeChar ++ ['"'])

/-- One character of a string where only what must be escaped is. -/
def escapeCharRaw (c : Char) : List Char :=
  if 0x20 ≤ c.toNat ∧ c ≠ '"' ∧ c ≠ '\\' then [c] else escapeChar c

/-- A string in quotes, with characters beyond ASCII as themselves. -/
def quotedRaw (s : String) : String :=
  String.ofList ('"' :: s.toList.flatMap escapeCharRaw ++ ['"'])

/-! ## One line -/

mutual

/-- A value on one line. -/
def toText : Json → String
  | .null => "null"
  | .bool b => if b then "true" else "false"
  | .num n => n.text .json
  | .str s => quoted s
  | .arr items => "[" ++ String.intercalate ", " (itemTexts items) ++ "]"
  | .obj members => "\x7b" ++ String.intercalate ", " (memberTexts members) ++ "\x7d"

def itemTexts : List Json → List String
  | [] => []
  | v :: vs => toText v :: itemTexts vs

def memberTexts : List (String × Json) → List String
  | [] => []
  | (k, v) :: ms => (quoted k ++ ": " ++ toText v) :: memberTexts ms

end

mutual

/-- A value without spaces, with characters beyond ASCII as themselves. -/
def toCompact : Json → String
  | .null => "null"
  | .bool b => if b then "true" else "false"
  | .num n => n.text .json
  | .str s => quotedRaw s
  | .arr items => "[" ++ String.intercalate "," (compactItems items) ++ "]"
  | .obj members => "\x7b" ++ String.intercalate "," (compactMembers members) ++ "\x7d"

def compactItems : List Json → List String
  | [] => []
  | v :: vs => toCompact v :: compactItems vs

def compactMembers : List (String × Json) → List String
  | [] => []
  | (k, v) :: ms => (quotedRaw k ++ ":" ++ toCompact v) :: compactMembers ms

end

/-! ## Several lines -/

def newLine (level : Nat) : String := "\n" ++ String.ofList (List.replicate (2 * level) ' ')

/-- Encloses texts, each on a line of its own one level further in; nothing stays on one line. -/
def enclose (left right : String) (level : Nat) (texts : List String) : String :=
  if texts.isEmpty then left ++ right
  else left ++ newLine (level + 1) ++ String.intercalate ("," ++ newLine (level + 1)) texts ++
    newLine level ++ right

mutual

/-- A value over several lines, its container standing at a level of indentation. -/
def toLinesAt (level : Nat) : Json → String
  | .arr items => enclose "[" "]" level (itemLines (level + 1) items)
  | .obj members => enclose "\x7b" "\x7d" level (memberLines (level + 1) members)
  | .null => toText .null
  | .bool b => toText (.bool b)
  | .num n => toText (.num n)
  | .str s => toText (.str s)

def itemLines (level : Nat) : List Json → List String
  | [] => []
  | v :: vs => toLinesAt level v :: itemLines level vs

def memberLines (level : Nat) : List (String × Json) → List String
  | [] => []
  | (k, v) :: ms => (quoted k ++ ": " ++ toLinesAt level v) :: memberLines level ms

end

/-- A value over several lines. -/
def toLines (v : Json) : String := toLinesAt 0 v

/-! ## Running text -/

mutual

/-- A value inside running text. -/
def display : Json → String
  | .null => "None"
  | .bool b => if b then "True" else "False"
  | .num n => n.text .plain
  | .str s => Text.quote s
  | .arr items => "[" ++ String.intercalate ", " (displayItems items) ++ "]"
  | .obj members => "\x7b" ++ String.intercalate ", " (displayMembers members) ++ "\x7d"

def displayItems : List Json → List String
  | [] => []
  | v :: vs => display v :: displayItems vs

def displayMembers : List (String × Json) → List String
  | [] => []
  | (k, v) :: ms => (Text.quote k ++ ": " ++ display v) :: displayMembers ms

end

/-- A value as running text: a string is its own text, anything else is shown. -/
def asText : Json → String
  | .str s => s
  | v => display v

end UiSurface.Json
