import UiSurface.Text.Codec
import UiSurface.Web.Answer
import UiSurface.Web.Url

/-!
# Requests — what is sent, and what keeps it from being sent

A request goes to an address and may carry a body.  A body in JSON holds no infinite number, and no
body holds a surrogate; host and port are written in ASCII; and a host that begins as a domain name
in ASCII does has to be one.
-/

namespace UiSurface

/-- What a request carries. -/
inductive Payload where
  | text (s : String)
  | json (v : Json)
deriving DecidableEq

/-- A request as it is asked for. -/
structure Request where
  method : String
  /-- where it goes: an address, or a path of the service -/
  target : String
  payload : Payload
deriving DecidableEq

/-- Why a request is not sent, or its answer not taken. -/
inductive RequestFault where
  | url (fault : Url.Fault)
  /-- the body holds a number that JSON does not know -/
  | notFinite
  /-- the body can not be written -/
  | notWritten (body : String)
  /-- the host is not in ASCII -/
  | notAscii (netloc : List Char)
  | host (fault : Domain.Name.Fault)
  /-- a reply came from an address without a scheme and a host -/
  | noOrigin (address : Url)
deriving DecidableEq

namespace RequestFault

def message : RequestFault → String
  | url fault => fault.message
  | notFinite => "Out of range float values are not JSON compliant"
  | notWritten body => Text.Codec.utf8.refusal body
  | notAscii netloc => Text.Codec.ascii.refusal (String.ofList netloc)
  | host fault => fault.message
  | noOrigin address => "unknown url type: " ++ Text.quote address.toText

end RequestFault

namespace Payload

def toText : Payload → String
  | text s => s
  | json v => v.toCompact

/-- Whether JSON can say a payload. -/
def isFinite : Payload → Bool
  | text _ => true
  | json v => Answer.isFinite v

/-- What keeps a payload from being sent. -/
def fault? (p : Payload) : Option RequestFault :=
  if !p.isFinite then some .notFinite
  else if !Text.Codec.utf8.takesText p.toText then some (.notWritten p.toText)
  else none

end Payload

namespace Url

/-- The fault of a host that begins as a domain name in ASCII does, and is none. -/
def nameFault? (u : Url) : Option Domain.Name.Fault :=
  let name := u.host.map Char.toNat
  if Domain.Label.asciiSign.isPrefixOf name then
    match Domain.Name.decode name with
    | .ok _ => none
    | .error fault => some fault
  else none

/-- What keeps a payload from being sent to an address. -/
def fault? (u : Url) (payload : Option Payload) : Option RequestFault :=
  -- the body is put together before the address is looked at
  match payload.bind Payload.fault? with
  | some fault => some fault
  | none =>
    if u.netloc.any (0x80 ≤ ·.toNat) then some (.notAscii u.netloc) else u.nameFault?.map .host

end Url

namespace Request

/-- The address of a request to the service, if it can be sent. -/
def address (r : Request) : Except RequestFault Url :=
  match Url.ofText r.target with
  | .error fault => .error (.url fault)
  | .ok url => match url.fault? (some r.payload) with
    | some fault => .error fault
    | none => .ok url

end Request

end UiSurface
