import UiSurface.Device.Registry
import UiSurface.Json.Reader

/-!
# Sessions — what the service does with one socket

A session waits for registrations.  Every other text is passed over, so a device may send what it
likes; only an acknowledgement that can not be written or sent, an integer with too many digits, or
the end of the socket ends a session.  However it ends, the registration that it holds is taken
back, unless another socket has taken it over.
-/

namespace UiSurface

/-- Why a session ended before its socket did. -/
inductive SessionFault where
  /-- the acknowledgement can not be written -/
  | notWritten (reason : String)
  | notSent
  | digits (fault : TooManyDigits)
deriving DecidableEq

/-- A session. -/
inductive Session where
  /-- it goes by an id, and has or has not registered under it -/
  | alive (id : String) (registered : Bool)
  | ended (fault : Option SessionFault)
deriving DecidableEq

/-- A session together with what it works on. -/
structure SessionState where
  session : Session
  registry : Registry
  wire : Wire
deriving DecidableEq

namespace Session

/-- A session as it begins: it goes by an id made of the time, in milliseconds. -/
def start (milliseconds : Nat) : Session :=
  alive ("device-" ++ Number.intText milliseconds) false

/-- What ended a session before its socket. -/
def fault? : Session → Option SessionFault
  | alive .. => none
  | ended fault => fault

end Session

namespace SessionState

/-- Ends a session over a socket. -/
def finish (s : SessionState) (socket : String) (fault : Option SessionFault) : SessionState :=
  match s.session with
  | .alive id true =>
    { s with session := .ended fault, registry := s.registry.unregister id (some socket) }
  | .alive _ false => { s with session := .ended fault }
  | .ended _ => s

/-- Gives up the id that a session is registered under, if it is to be another one. -/
def giveUp (s : SessionState) (socket newId : String) : Registry :=
  match s.session with
  | .alive id true =>
    if newId = id then s.registry else s.registry.unregister id (some socket)
  | _ => s.registry

/-- Tells the device its id.  If that fails, the session ends. -/
def tell (s : SessionState) (socket : String) : SessionState :=
  match s.session with
  | .ended _ => s
  | .alive id _ => match Frame.acknowledge id with
    -- the text comes before the socket, so this fails even if the socket works
    | .error reason => s.finish socket (some (.notWritten reason))
    | .ok text =>
      if s.wire.works socket then { s with wire := s.wire.send socket text }
      else s.finish socket (some .notSent)

/-- Registers the device of a session and acknowledges it. -/
def accept (s : SessionState) (socket currentId : String) (r : Registration) : SessionState :=
  let id := r.id.getD currentId
  -- the id before is given up first, then the new one is taken, then the device is told
  let registered : SessionState :=
    { s with
      session := .alive id true
      registry := (s.giveUp socket id).register id r.platform socket }
  registered.tell socket

/-- Takes a text from a socket (`device_websocket`). -/
def receive (s : SessionState) (socket text : String) : SessionState :=
  match s.session with
  | .ended _ => s
  | .alive id _ => match Json.ofText text with
    | .ok v => match Frame.registration? v with
      | some r => s.accept socket id r
      | none => s
    | .error (.digits fault) => s.finish socket (some (.digits fault))
    | .error (.malformed ..) => s

end SessionState

end UiSurface
