import UiSurface.Text.LowerCase
import UiSurface.Web.Domain.Name
import UiSurface.Web.Numeric

/-!
# Hosts — which machine an address names

A host is a numeric address or a name.  A long numeric address stands in brackets.  A name of ASCII
is put in lower case; any other is a domain name and is written in ASCII.
-/

namespace UiSurface.Host

/-- Why a text is no host. -/
inductive Fault where
  | short (host : List Char)
  | long (host : List Char)
  | name (host : List Char)
deriving DecidableEq

def Fault.message : Fault → String
  | short host => "Invalid IPv4 address: " ++ Text.quote (String.ofList host)
  | long host => "Invalid IPv6 address: " ++ Text.quote (String.ofList host)
  | name host => "Invalid IDNA hostname: " ++ Text.quote (String.ofList host)

/-- What may stand in a host. -/
def isSafe (c : Char) : Bool :=
  c.isAlphanum || "-._~!$&'()*+,;=\"\x60\x7b\x7d%|\\".toList.contains c

def isBracketed (host : List Char) : Bool :=
  2 ≤ host.length && host.head? == some '[' && host.getLast? == some ']'

def inside (host : List Char) : List Char := (host.drop 1).dropLast

/-- A domain name in ASCII. -/
def ofName (host : List Char) : Except Fault (List Char) :=
  match Domain.Name.encode ((Text.lower host).map Char.toNat) with
  | .ok ascii => .ok (ascii.map Char.ofNat)
  | .error _ => .error (.name host)

/-- A host in its one form, without brackets. -/
def ofChars (host : List Char) : Except Fault (List Char) :=
  if host.isEmpty then .ok []
  -- what looks like a short address has to be one
  else if Numeric.isFourNumbers host then
    if Numeric.isShort host then .ok host else .error (.short host)
  else if isBracketed host then
    if Numeric.isLong (inside host) then .ok (inside host) else .error (.long host)
  else if host.all (·.toNat < 0x80) then .ok (Percent.escape isSafe (host.map Char.toLower))
  else ofName host

/-- The text of a host; one with a colon is put in brackets. -/
def toText (host : List Char) : List Char :=
  if host.contains ':' then '[' :: host ++ [']'] else host

end UiSurface.Host
