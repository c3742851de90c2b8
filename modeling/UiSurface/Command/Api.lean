import UiSurface.Json.Encoded
import UiSurface.Web.Request

/-!
# Calls — what the command line asks of the service

A call has a path below the base address; a call that changes something carries a body.  What the
service replies is a status and a text, which is JSON if all is well.
-/

namespace UiSurface

/-- What is asked of the service. -/
inductive ApiCall where
  | push (messages : List Json) (device : Option String)
  | pushDesign (id : String) (overlay : Option (Record Json))
  | saveDesign (messages : List Json) (id : Option String)
  | listDesigns
  | listDevices
deriving DecidableEq

/-- A request on its way. -/
structure ApiRequest where
  method : String
  url : Url
  body : Option Json
deriving DecidableEq

/-- What the service says. -/
structure ApiReply where
  status : Nat
  body : String
deriving DecidableEq

namespace ApiCall

/-- The path of a call below the base address. -/
def path : ApiCall → String
  | push .. => "/api/devices/push"
  | pushDesign .. => "/api/devices/push-design"
  | saveDesign .. | listDesigns => "/api/designs"
  | listDevices => "/api/devices"

/-- A member that is left out if there is no text for it, or an empty one. -/
def nameMember (key : String) (text : Option String) : Record Json :=
  match text with
  | some s => if s.isEmpty then [] else [(key, .str s)]
  | none => []

/-- The body of a call. -/
def body? : ApiCall → Option Json
  | push messages device =>
    some (.obj (("messages", .arr messages) :: nameMember "device_id" device))
  | pushDesign id overlay =>
    some (.obj (("design_id", .str id) :: overlay.toList.map (fun o => ("data_model", .obj o))))
  | saveDesign messages id => some (.obj (("messages", .arr messages) :: nameMember "id" id))
  | listDesigns | listDevices => none

/-- The address of a call, below a base address.  A call that only asks takes no query along. -/
def url (call : ApiCall) (base : String) : Except Url.Fault Url := do
  let url ← Url.ofText (base ++ call.path)
  match call.body? with
  | some _ => return url
  | none => url.withoutQuery

/-- The request of a call, below a base address. -/
def request (call : ApiCall) (base : String) : Except RequestFault ApiRequest :=
  match call.url base with
  | .error fault => .error (.url fault)
  | .ok url =>
    let body? := call.body?
    match url.fault? (body?.map .json) with
    | some fault => .error fault
    | none => .ok ⟨if body?.isSome then "POST" else "GET", url, body?⟩

end ApiCall

namespace ApiReply

def value (r : ApiReply) : Except Json.EncodedFault Json := Json.ofEncoded r.body

end ApiReply

/-! ## The base address -/

namespace Api

def defaultBase : String := "http://localhost:8000"

def withoutSlashes (url : String) : String :=
  String.ofList (Text.dropEndWhile (· == '/') url.toList)

/-- The base address (`api_url`): the first that is given and not empty. -/
def base (given fromEnvironment : Option String) : String :=
  match [given, fromEnvironment].findSome? (fun o => o.filter (fun s => !s.isEmpty)) with
  | some url => withoutSlashes url
  | none => defaultBase

end Api

end UiSurface
