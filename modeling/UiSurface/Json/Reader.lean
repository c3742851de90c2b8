import UiSurface.Json.Basic
import UiSurface.Number.Numeral
import UiSurface.Text.CodePoint

/-!
# Reading JSON text

The reader takes one character at a time.  Its state is what it has read of the containers that are
open, what may come next, and the token that it is in the middle of; a text is read by folding the
characters into the state.  The first fault met stays.

Beyond the standard the reader takes `NaN`, `Infinity` and `-Infinity`.  A member that is named
twice keeps its first place and its last value.  Control characters may not stand in a string.  A
surrogate that an escape names without its partner is read as it is.

Main lemma: `run_append` (a text is read by reading its parts one after the other).
-/

namespace UiSurface.Json

/-! ## Faults -/

/-- What was wrong at a place of the text. -/
inductive Cause where
  | value
  | propertyName
  | colon
  | comma
  | extraData
  | unterminatedString
  | controlCharacter
  | escape
  | unicodeEscape
  | byteOrderMark
deriving DecidableEq

/-- What a fault expected or found. -/
def Cause.message : Cause → String
  | value => "Expecting value"
  | propertyName => "Expecting property name enclosed in double quotes"
  | colon => "Expecting ':' delimiter"
  | comma => "Expecting ',' delimiter"
  | extraData => "Extra data"
  | unterminatedString => "Unterminated string starting at"
  | controlCharacter => "Invalid control character at"
  | escape => "Invalid \\escape"
  | unicodeEscape => "Invalid \\uXXXX escape"
  | byteOrderMark => "Unexpected UTF-8 BOM (decode using utf-8-sig)"

/-- Why a text is not read. -/
inductive TextFault where
  /-- the text is not JSON: the cause, and the place by line, column and offset -/
  | malformed (cause : Cause) (line column offset : Nat)
  /-- the text is JSON, but an integer in it is too long -/
  | digits (fault : TooManyDigits)
deriving DecidableEq

def TextFault.message : TextFault → String
  | malformed cause line column offset =>
    cause.message ++ ": line " ++ Number.intText line ++ " column " ++ Number.intText column ++
      " (char " ++ Number.intText offset ++ ")"
  | digits fault => fault.message

namespace Reader

/-- A fault inside the reader, by its offset. -/
inductive Failure where
  | malformed (cause : Cause) (offset : Nat)
  | digits (fault : TooManyDigits)
deriving DecidableEq

/-! ## The state -/

/-- A container that is open. -/
inductive Frame where
  /-- an array with the items so far, the last first -/
  | array (done : List Json)
  /-- an object with the members so far -/
  | object (done : Record Json)
  /-- an object in the middle of the member with this name -/
  | member (done : Record Json) (key : String)

/-- What may come next. -/
inductive Expect where
  | value
  | firstItem
  | key
  | firstKey
  | colon
  | separator
  | nothing (result : Json)

/-- The token that the reader is in the middle of. -/
inductive Partial where
  /-- no token -/
  | between
  /-- a literal from `start`, with the characters still to come -/
  | literal (start : Nat) (rest : List Char) (value : Json)
  /-- a minus sign -/
  | minus (start : Nat)
  /-- the digits before the point, the last first -/
  | whole (negative : Bool) (digits : List Char)
  /-- a point at `place` after the digits -/
  | point (negative : Bool) (digits : List Char) (place : Nat)
  /-- the digits after the point, the last first -/
  | fraction (negative : Bool) (whole fraction : List Char)
  /-- the mark of an exponent at `place`, perhaps with a sign -/
  | mark (negative : Bool) (whole fraction : List Char) (place : Nat) (sign : Option Bool)
  /-- the digits of the exponent, the last first -/
  | exponent (negative : Bool) (whole fraction : List Char) (exponentNegative : Bool)
      (digits : List Char)
  /-- a string from `start`, the last character first; `high` is a high surrogate that waits for its
  partner, and `escaped` the place of a Unicode escape that ended just now -/
  | string (start : Nat) (chars : List Char) (high : Option Nat) (escaped : Option Nat)
  /-- a backslash at `place` in a string -/
  | escape (start : Nat) (chars : List Char) (high : Option Nat) (place : Nat)
  /-- a Unicode escape whose letter stands at `place`, with the digits so far -/
  | unicode (start : Nat) (chars : List Char) (high : Option Nat) (place count value : Nat)

/-- A state of the reader. -/
inductive State where
  | reading (offset : Nat) (stack : List Frame) (expect : Expect) (token : Partial)
  | failed (failure : Failure)

/-- Before the first character. -/
def initial : State := .reading 0 [] .value .between

/-! ## Tokens -/

/-- White space between tokens. -/
def isGap (c : Char) : Bool := c == ' ' || c == '\t' || c == '\n' || c == '\r'

/-- A digit of JSON: ASCII only. -/
def isDigit (c : Char) : Bool := '0' ≤ c && c ≤ '9'

def hexValue? (c : Char) : Option Nat :=
  if '0' ≤ c && c ≤ '9' then some (c.toNat - 48)
  else if 'a' ≤ c && c ≤ 'f' then some (c.toNat - 87)
  else if 'A' ≤ c && c ≤ 'F' then some (c.toNat - 55)
  else none

def unescape? : Char → Option Char
  | '"' => some '"'
  | '\\' => some '\\'
  | '/' => some '/'
  | 'b' => some '\x08'
  | 'f' => some '\x0c'
  | 'n' => some '\n'
  | 'r' => some '\r'
  | 't' => some '\t'
  | _ => none

/-- The characters of a string with a surrogate that waited in vain for its partner. -/
def settle (chars : List Char) : Option Nat → List Char
  | none => chars
  | some high => Text.ofPoint high :: chars

/-- The fault of a text that goes wrong at `place`, by what was expected there. -/
def Expect.cause : Expect → Cause
  | .value | .firstItem => .value
  | .key | .firstKey => .propertyName
  | .colon => .colon
  | .separator => .comma
  | .nothing _ => .extraData

/-- Takes a finished value into the innermost container. -/
def deliver (value : Json) : List Frame → List Frame × Expect
  | [] => ([], .nothing value)
  | .array done :: stack => (.array (value :: done) :: stack, .separator)
  -- a name that was there before keeps its place
  | .member done key :: stack => (.object (Record.put done key value) :: stack, .separator)
  | .object done :: stack => (.object done :: stack, .separator)

/-- Goes on behind a finished value. -/
def accept (offset : Nat) (stack : List Frame) (value : Json) : State :=
  let (stack, expect) := deliver value stack
  .reading offset stack expect .between

/-- The value of a number token. -/
def numberValue (negative : Bool) (whole fraction : List Char) (exponentNegative : Bool)
    (exponent : List Char) : Except TooManyDigits Json :=
  if fraction.isEmpty && exponent.isEmpty then
    (Numeral.integer negative whole.reverse).map (fun n => .num (.int n))
  else
    .ok (.num (.float (Numeral.toBinary64
      ⟨negative, whole.reverse, fraction.reverse, exponentNegative, exponent.reverse⟩)))

/-- Goes on behind a number token. -/
def acceptNumber (offset : Nat) (stack : List Frame) (negative : Bool)
    (whole fraction : List Char) (exponentNegative : Bool) (exponent : List Char) : State :=
  match numberValue negative whole fraction exponentNegative exponent with
  | .ok value => accept offset stack value
  | .error fault => .failed (.digits fault)

/-- Fails at `place` with what the state expects. -/
def State.reject (place : Nat) : State → State
  | .reading _ _ expect _ => .failed (.malformed expect.cause place)
  | .failed failure => .failed failure

/-- The first character of a value. -/
def beginValue (offset : Nat) (stack : List Frame) (expect : Expect) (c : Char) : State :=
  let next := offset + 1
  let token (t : Partial) : State := .reading next stack expect t
  match c with
  | '"' => token (.string offset [] none none)
  | '{' => .reading next (.object [] :: stack) .firstKey .between
  | '[' => .reading next (.array [] :: stack) .firstItem .between
  | 'n' => token (.literal offset ['u', 'l', 'l'] .null)
  | 't' => token (.literal offset ['r', 'u', 'e'] (.bool true))
  | 'f' => token (.literal offset ['a', 'l', 's', 'e'] (.bool false))
  | 'N' => token (.literal offset ['a', 'N'] (.num (.float Binary64.nan)))
  | 'I' => token (.literal offset ['n', 'f', 'i', 'n', 'i', 't', 'y']
      (.num (.float (.infinity false))))
  | '-' => token (.minus offset)
  | _ => if isDigit c then token (.whole false [c]) else .failed (.malformed .value offset)

/-- A character between tokens. -/
def begin (offset : Nat) (stack : List Frame) (expect : Expect) (c : Char) : State :=
  let next := offset + 1
  if isGap c then .reading next stack expect .between
  else match expect, stack with
    | .value, _ => beginValue offset stack .value c
    | .firstItem, .array _ :: rest =>
      if c = ']' then accept next rest (.arr []) else beginValue offset stack .firstItem c
    | .firstKey, .object _ :: rest =>
      if c = '}' then accept next rest (.obj [])
      else if c = '"' then .reading next stack .firstKey (.string offset [] none none)
      else .failed (.malformed .propertyName offset)
    | .key, _ =>
      if c = '"' then .reading next stack .key (.string offset [] none none)
      else .failed (.malformed .propertyName offset)
    | .colon, _ =>
      if c = ':' then .reading next stack .value .between else .failed (.malformed .colon offset)
    | .separator, .array done :: rest =>
      if c = ',' then .reading next stack .value .between
      else if c = ']' then accept next rest (.arr done.reverse)
      else .failed (.malformed .comma offset)
    | .separator, .object done :: rest =>
      if c = ',' then .reading next stack .key .between
      else if c = '}' then accept next rest (.obj done)
      else .failed (.malformed .comma offset)
    | expect, _ => .failed (.malformed expect.cause offset)

/-- Goes on behind a character of a state that `finish` has led between tokens. -/
def State.resume (c : Char) : State → State
  | .reading offset stack expect _ => begin offset stack expect c
  | .failed failure => .failed failure

/-- The end of a string: a value, or the name of a member. -/
def closeString (offset : Nat) (stack : List Frame) (expect : Expect) (chars : List Char) : State :=
  let text := String.ofList chars.reverse
  match expect, stack with
  | .key, .object done :: rest | .firstKey, .object done :: rest =>
    .reading offset (.member done text :: rest) .colon .between
  | _, _ => accept offset stack (.str text)

/-- A finished Unicode escape: a character, a surrogate that waits, or a pair that is complete. -/
def closeUnicode (chars : List Char) (high : Option Nat) (value : Nat) :
    List Char × Option Nat :=
  if 0xD800 ≤ value && value ≤ 0xDBFF then (settle chars high, some value)
  else if 0xDC00 ≤ value && value ≤ 0xDFFF then
    match high with
    | some h => (Char.ofNat (0x10000 + (h - 0xD800) * 0x400 + (value - 0xDC00)) :: chars, none)
    | none => (Text.ofPoint value :: chars, none)
  else (Char.ofNat value :: settle chars high, none)

/-! ## Steps -/

/-- One character in the middle of a token, or between tokens. -/
def stepReading (offset : Nat) (stack : List Frame) (expect : Expect) (c : Char) :
    Partial → State
  | .between => begin offset stack expect c
  | .literal start rest value =>
    match rest with
    | [] => .failed (.malformed .value start)
    | r :: rest =>
      if c = r then
        if rest.isEmpty then accept (offset + 1) stack value
        else .reading (offset + 1) stack expect (.literal start rest value)
      else .failed (.malformed .value start)
  | .minus start =>
    if isDigit c then .reading (offset + 1) stack expect (.whole true [c])
    -- the one word that takes a sign
    else if c = 'I' then
      .reading (offset + 1) stack expect (.literal start ['n', 'f', 'i', 'n', 'i', 't', 'y']
        (.num (.float (.infinity true))))
    else .failed (.malformed .value start)
  | .whole negative digits =>
    -- no digit follows a zero in front
    if isDigit c && digits != ['0'] then
      .reading (offset + 1) stack expect (.whole negative (c :: digits))
    else if c = '.' then .reading (offset + 1) stack expect (.point negative digits offset)
    else if c = 'e' || c = 'E' then
      .reading (offset + 1) stack expect (.mark negative digits [] offset none)
    else (acceptNumber offset stack negative digits [] false []).resume c
  | .point negative digits place =>
    if isDigit c then .reading (offset + 1) stack expect (.fraction negative digits [c])
    -- a point without digits is no part of the number, which ended before it
    else (acceptNumber offset stack negative digits [] false []).reject place
  | .fraction negative whole fraction =>
    if isDigit c then
      .reading (offset + 1) stack expect (.fraction negative whole (c :: fraction))
    else if c = 'e' || c = 'E' then
      .reading (offset + 1) stack expect (.mark negative whole fraction offset none)
    else (acceptNumber offset stack negative whole fraction false []).resume c
  | .mark negative whole fraction place sign =>
    if isDigit c then
      .reading (offset + 1) stack expect
        (.exponent negative whole fraction (sign.getD false) [c])
    else if sign.isNone && (c == '-' || c == '+') then
      .reading (offset + 1) stack expect (.mark negative whole fraction place (some (c == '-')))
    -- nor is the mark of an exponent without digits
    else (acceptNumber offset stack negative whole fraction false []).reject place
  | .exponent negative whole fraction exponentNegative digits =>
    if isDigit c then
      .reading (offset + 1) stack expect
        (.exponent negative whole fraction exponentNegative (c :: digits))
    else (acceptNumber offset stack negative whole fraction exponentNegative digits).resume c
  | .string start chars high _ =>
    -- a surrogate that waits is alone as soon as anything but an escape follows
    if c = '"' then closeString (offset + 1) stack expect (settle chars high)
    else if c = '\\' then .reading (offset + 1) stack expect (.escape start chars high offset)
    else if c.toNat ≤ 0x1F then .failed (.malformed .controlCharacter offset)
    else .reading (offset + 1) stack expect (.string start (c :: settle chars high) none none)
  | .escape start chars high place =>
    if c = 'u' then .reading (offset + 1) stack expect (.unicode start chars high offset 0 0)
    else match unescape? c with
      | some plain =>
        .reading (offset + 1) stack expect (.string start (plain :: settle chars high) none none)
      | none => .failed (.malformed .escape place)
  | .unicode start chars high place count value =>
    match hexValue? c with
    | none => .failed (.malformed .unicodeEscape place)
    | some digit =>
      -- the fourth digit completes the escape
      if count = 3 then
        let (chars, high) := closeUnicode chars high (16 * value + digit)
        .reading (offset + 1) stack expect (.string start chars high (some place))
      else
        .reading (offset + 1) stack expect
          (.unicode start chars high place (count + 1) (16 * value + digit))

def step : State → Char → State
  | .reading offset stack expect token, c => stepReading offset stack expect c token
  | .failed failure, _ => .failed failure

def run (s : State) (cs : List Char) : State := cs.foldl step s

theorem run_append (s : State) (cs ds : List Char) : run s (cs ++ ds) = run (run s cs) ds :=
  List.foldl_append

/-- What a state between tokens says at the end of the text. -/
def State.result : State → Except Failure Json
  | .failed failure => .error failure
  | .reading _ _ (.nothing value) _ => .ok value
  | .reading offset _ expect _ => .error (.malformed expect.cause offset)

/-- The end of the text.  A Unicode escape needs a further character behind it, so a text that ends
right after one is faulted for the escape and not for the string. -/
def finish : State → Except Failure Json
  | .failed failure => .error failure
  | .reading offset stack expect token =>
    match token with
    | .between => (State.reading offset stack expect .between).result
    | .literal start _ _ | .minus start => .error (.malformed .value start)
    | .whole negative digits => (acceptNumber offset stack negative digits [] false []).result
    | .point negative digits place =>
      ((acceptNumber offset stack negative digits [] false []).reject place).result
    | .fraction negative whole fraction =>
      (acceptNumber offset stack negative whole fraction false []).result
    | .mark negative whole fraction place _ =>
      ((acceptNumber offset stack negative whole fraction false []).reject place).result
    | .exponent negative whole fraction exponentNegative digits =>
      (acceptNumber offset stack negative whole fraction exponentNegative digits).result
    | .string _ _ _ (some place) => .error (.malformed .unicodeEscape place)
    | .string start _ _ none | .escape start _ _ _ => .error (.malformed .unterminatedString start)
    | .unicode _ _ _ place _ _ => .error (.malformed .unicodeEscape place)

/-- Puts a fault at its line and column: lines end at line feeds, and both count from one. -/
def Failure.locate (cs : List Char) : Failure → TextFault
  | .malformed cause offset =>
    let before := cs.take offset
    let column := (before.reverse.takeWhile (· != '\n')).length + 1
    .malformed cause (before.count '\n' + 1) column offset
  | .digits fault => .digits fault

end Reader

def readValue (cs : List Char) : Except TextFault Json :=
  match Reader.finish (Reader.run Reader.initial cs) with
  | .ok value => .ok value
  | .error failure => .error (failure.locate cs)

/-- Reads a text that is one JSON value.  A byte order mark in front is refused. -/
def parse (cs : List Char) : Except TextFault Json :=
  if cs.head? = some '\ufeff' then .error (.malformed .byteOrderMark 1 1 0) else readValue cs

def ofText (text : String) : Except TextFault Json := parse text.toList

end UiSurface.Json
