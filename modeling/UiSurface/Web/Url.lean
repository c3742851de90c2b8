import UiSurface.Number.Grouped
import UiSurface.Record
import UiSurface.Web.Host
import UiSurface.Web.Target

/-!
# Addresses — where a request goes

An address is taken apart and kept in one form: scheme and host in lower case, no default port, no
segments of full stops, and characters that may not stand in a part written by per-cent signs.  An
address without a scheme or without a host is the path of it alone.
-/

namespace UiSurface

/-- An address in its one form. -/
structure Url where
  scheme : List Char
  /-- name and password of a user -/
  user : List Char
  /-- the host, without brackets -/
  host : List Char
  port : Option Int
  path : List Char
  query : Option (List Char)
  fragment : Option (List Char)
deriving DecidableEq

namespace Url

/-- The parts that an address falls into. -/
inductive Part where
  | scheme
  | authority
  | path
  | query
  | fragment
deriving DecidableEq

def Part.name : Part → String
  | scheme => "scheme"
  | authority => "authority"
  | path => "path"
  | query => "query"
  | fragment => "fragment"

/-- Why a text is no address. -/
inductive Fault where
  | tooLong
  | partTooLong (part : Part)
  | control (c : Char) (position : Nat)
  | host (fault : Host.Fault)
  | port (text : String)
  | rootless
  | slashes
  | colon
deriving DecidableEq

def Fault.message : Fault → String
  | tooLong => "URL too long"
  | partTooLong part => "URL component '" ++ part.name ++ "' too long"
  | control c position =>
    "Invalid non-printable ASCII character in URL, " ++ Text.quote (String.ofList [c]) ++
      " at position " ++ Number.intText position ++ "."
  | host fault => fault.message
  | port text => "Invalid port: " ++ Text.quote text
  | rootless => "For absolute URLs, path must be empty or begin with '/'"
  | slashes => "Relative URLs cannot have a path starting with '//'"
  | colon => "Relative URLs cannot have a path starting with ':'"

/-! ## Safe characters -/

/-- Whether a character is printable ASCII and none of those that are excepted. -/
def isSafeBut (excepted : List Char) (c : Char) : Bool :=
  0x20 < c.toNat && c.toNat < 0x7F && !excepted.contains c

def isFragmentSafe : Char → Bool := isSafeBut ['"', '<', '>', '\x60']

def isQuerySafe : Char → Bool := isSafeBut ['"', '#', '<', '>']

def isPathSafe : Char → Bool := isSafeBut ['"', '#', '<', '>', '?', '\x60', '\x7b', '\x7d']

def isUserSafe : Char → Bool :=
  isSafeBut ['"', '#', '<', '>', '?', '\x60', '\x7b', '\x7d', '/', ';', '=', '@', '[', '\\', ']',
    '^', '|']

/-! ## Taking apart -/

/-- The text of an address, part by part. -/
structure Parts where
  scheme : List Char
  authority : List Char
  path : List Char
  query : Option (List Char)
  fragment : Option (List Char)

/-- Whether a character may stand in a scheme behind its first letter. -/
def isSchemeChar (c : Char) : Bool := c.isAlphanum || c == '+' || c == '.' || c == '-'

/-- Takes a scheme and its colon off the front. -/
def takeScheme (cs : List Char) : List Char × List Char :=
  match cs.takeWhile isSchemeChar, cs.dropWhile isSchemeChar with
  -- a scheme begins with a letter, and a colon alone is dropped
  | c :: scheme, ':' :: rest => if c.isAlpha then (c :: scheme, rest) else ([], cs)
  | [], ':' :: rest => ([], rest)
  | _, _ => ([], cs)

/-- Takes an authority and its slashes off the front. -/
def takeAuthority : List Char → List Char × List Char
  | '/' :: '/' :: cs => cs.span (fun c => c != '/' && c != '?' && c != '#')
  | cs => ([], cs)

/-- Takes a part off the front that begins with a sign, if there is one. -/
def takePart (sign : Char) (isEnd : Char → Bool) : List Char → Option (List Char) × List Char
  | c :: cs =>
    if c = sign then (some (cs.takeWhile (fun c => !isEnd c)), cs.dropWhile (fun c => !isEnd c))
    else (none, c :: cs)
  | [] => (none, [])

/-- Takes a text apart. -/
def Parts.ofChars (cs : List Char) : Parts :=
  let (scheme, rest) := takeScheme cs
  let (authority, rest) := takeAuthority rest
  let path := rest.takeWhile (fun c => c != '?' && c != '#')
  let (query, rest) := takePart '?' (· == '#') (rest.dropWhile (fun c => c != '?' && c != '#'))
  let (fragment, _) := takePart '#' (fun _ => false) rest
  ⟨scheme, authority, path, query, fragment⟩

/-! ## Authorities -/

/-- The text of an authority: user, host and port. -/
structure Authority where
  user : List Char
  host : List Char
  port : List Char

/-- A host and what follows it.  A host in brackets ends with the last bracket. -/
def splitHost (cs : List Char) : List Char × List Char :=
  match cs.head?, Text.splitLast ']' cs with
  | some '[', some (host, rest) => (host ++ [']'], rest)
  | _, _ => cs.span (fun c => c != ':' && c != '@')

/-- Takes an authority apart. -/
def Authority.ofChars (cs : List Char) : Authority :=
  -- a password may hold the sign that ends it
  let (user, rest) := (Text.splitLast '@' cs).getD ([], cs)
  let (host, rest) := splitHost rest
  ⟨user, host, if rest.head? = some ':' then rest.drop 1 else rest⟩

def defaultPort? (scheme : List Char) : Option Int :=
  Record.get? [("ftp", 21), ("http", 80), ("https", 443), ("ws", 80), ("wss", 443)]
    (String.ofList scheme)

def readPort (scheme text : List Char) : Except Fault (Option Int) :=
  if text.isEmpty then .ok none
  else match Numeral.groupedInteger text with
    | .ok n => .ok (if defaultPort? scheme = some n then none else some n)
    | .error _ => .error (.port (String.ofList text))

/-! ## Putting together -/

/-- What is wrong with a path behind what stands before it. -/
def pathFault? (hasScheme hasAuthority : Bool) (path : List Char) : Option Fault :=
  if hasAuthority then if path.isEmpty || path.head? == some '/' then none else some .rootless
  else if hasScheme then none
  else if ['/', '/'].isPrefixOf path then some .slashes
  else if path.head? == some ':' then some .colon
  else none

/-- The address of its parts, each in its one form.  The default port goes by the scheme as it is
written. -/
def Parts.url (p : Parts) : Except Fault Url := do
  let authority := Authority.ofChars p.authority
  let host ← (Host.ofChars authority.host).mapError .host
  let port ← readPort p.scheme authority.port
  let hasAuthority := !authority.user.isEmpty || !host.isEmpty || port.isSome
  match pathFault? (!p.scheme.isEmpty) hasAuthority p.path with
  | some fault => .error fault
  | none =>
    let tidied := if p.scheme.isEmpty && !hasAuthority then p.path else Target.tidy p.path
    .ok ⟨p.scheme.map Char.toLower, Percent.escape isUserSafe authority.user, host, port,
      Percent.escape isPathSafe tidied, p.query.map (Percent.escape isQuerySafe),
      p.fragment.map (Percent.escape isFragmentSafe)⟩

/-! ## Views -/

def netloc (u : Url) : List Char :=
  Host.toText u.host ++ ((u.port.map fun n => ':' :: (Number.intText n).toList)).getD []

def authority (u : Url) : List Char :=
  (if u.user.isEmpty then [] else u.user ++ ['@']) ++ u.netloc

/-- Whether an address says where it leads without another. -/
def isAbsolute (u : Url) : Bool := !u.scheme.isEmpty && !u.host.isEmpty

def toText (u : Url) : String :=
  String.ofList ((if u.scheme.isEmpty then [] else u.scheme ++ [':']) ++
    (if u.authority.isEmpty then [] else '/' :: '/' :: u.authority) ++ u.path ++
    (u.query.map ('?' :: ·)).getD [] ++ (u.fragment.map ('#' :: ·)).getD [])

/-- An address with a path without segments of full stops. -/
def tidied (u : Url) : Url := { u with path := Target.tidy u.path }

/-- The path that an address leads to, decoded. -/
def place (u : Url) : String :=
  String.ofList (Percent.decode (if u.path.isEmpty then ['/'] else u.path))

/-! ## Reading -/

/-- How many characters an address may have, and each of its parts when it is read again. -/
def maxLength : Nat := 65536

/-- The parts of an address, which are to be read again, with another query. -/
def partsWith (u : Url) (query : Option (List Char)) : Parts :=
  ⟨u.scheme, u.authority, u.path, query, u.fragment⟩

/-- The first part that is too long. -/
def Parts.longPart? (p : Parts) : Option Part :=
  (([(Part.scheme, p.scheme), (.authority, p.authority), (.path, p.path),
    (.query, p.query.getD []), (.fragment, p.fragment.getD [])]).find?
      (fun part => maxLength < part.2.length)).map (·.1)

/-- Reads parts that have been read before. -/
def Parts.again (p : Parts) : Except Fault Url :=
  match p.longPart? with
  | some part => .error (.partTooLong part)
  | none => p.url

/-- An address that is taken for a path: one slash in front, and nothing but the query behind it. -/
def rooted (u : Url) : Parts :=
  ⟨[], [], '/' :: u.path.dropWhile (· == '/'), u.query, none⟩

/-- Reads an address. -/
def ofText (text : String) : Except Fault Url := do
  let cs := text.toList
  if maxLength < cs.length then .error .tooLong
  else match cs.findIdx? isControl with
    | some position => .error (.control (cs.getD position ' ') position)
    | none =>
      let u ← (Parts.ofChars cs).url
      if u.isAbsolute then .ok u else u.rooted.again
where
  /-- Whether a character is a control character of ASCII. -/
  isControl (c : Char) : Bool := c.toNat < 0x20 || c.toNat == 0x7F

/-- An address without its query.  It is read again, so the port goes by the scheme in lower
case. -/
def withoutQuery (u : Url) : Except Fault Url := (u.partsWith none).again

end Url

end UiSurface
