import UiSurface.Command.Cell
import UiSurface.Command.Local
import UiSurface.Web.Status

/-!
# Asking the service — pushing, saving and listing

Each command makes one call and prints a line or a table of what comes back.  A reply that is no
success is told by its status and its detail, and by the problems that it lists.
-/

namespace UiSurface.Command

open Program

/-! ## One call -/

/-- A step that fails where a value has another shape. -/
def shaped {α : Type} : Except ShapeFault α → Program α := ofExcept .shape

/-- What a reply that is no success says of itself; a body that is no JSON says nothing. -/
def refusal (reply : ApiReply) : Program Json :=
  match reply.value with
  | .ok v => done v
  | .error (.text (.malformed ..)) => done (.obj [])
  | .error fault => stop (.fault (.text fault))

/-- The line of a problem that a reply lists. -/
def problemLine (problem : Json) : Except ShapeFault String := do
  let place ← Shape.member problem "path"
  let message ← Shape.member problem "message"
  return "  [" ++ place.asText ++ "] " ++ message.asText

/-- Tells a reply that is no success (`report_http_error`). -/
def tellRefusal (reply : ApiReply) : Program Unit := do
  let body ← refusal reply
  let detail ← shaped (Shape.memberOr body "detail" (.str (Status.phrase reply.status)))
  print ("Error: " ++ Number.intText reply.status ++ " " ++ detail.asText)
  let problems ← shaped (do Shape.items (← Shape.memberOr body "errors" (.arr [])))
  problems.forM (fun problem => do print (← shaped (problemLine problem)))

/-- What a call brings; a call that fails is told and ends the program.  A reply counts only where
the address has an origin. -/
def ask (base : String) (call : ApiCall) : Program Json := do
  let request ← ofExcept .request (call.request base)
  send request fun
    | .error reason => do
      print ("Error: could not reach " ++ base ++ " (" ++ reason ++ ")")
      exit 1
    | .ok reply =>
      if !request.url.isAbsolute then stop (.fault (.request (.noOrigin request.url)))
      -- a success that is no JSON is a fault and not a refusal
      else if Status.isSuccess reply.status then ofExcept .text reply.value
      else do
        tellRefusal reply
        exit 1

/-! ## Commands -/

/-- How many devices a batch was delivered to, as the reply puts it. -/
def delivered (reply : Json) : Program String := do
  return " (" ++ (← shaped (Shape.member reply "pushed")).asText ++ " delivered)"

/-- Pushes a batch (`cmd_push`). -/
def pushBatch (base : String) (messages : List Json) (device : Option String) : Program Unit := do
  let reply ← ask base (.push messages device)
  let target := (device.filter (fun d => !d.isEmpty)).getD "all devices"
  print ("Pushed " ++ count messages.length "message(s)" ++ " to " ++ target ++ (← delivered reply))

/-- Pushes a design (`cmd_push_design`). -/
def pushDesignTo (base id : String) (overlay : Option (Record Json)) : Program Unit := do
  let reply ← ask base (.pushDesign id overlay)
  print ("Pushed design " ++ id ++ " to all devices" ++ (← delivered reply))

/-- Saves a batch as a design (`cmd_save`). -/
def saveBatch (base : String) (messages : List Json) (id : Option String) : Program Unit := do
  let reply ← ask base (.saveDesign messages id)
  let id ← shaped (Shape.member reply "id")
  let length ← shaped (do Shape.length (← Shape.member reply "messages"))
  print ("Saved design " ++ id.asText ++ " (" ++ count length "message(s)" ++ ")")

/-- Prints a table: a line for each value that a reply lists, or one line if it amounts to
nothing. -/
def printTable (reply : Json) (nothing : String) (line : Json → Except ShapeFault String) :
    Program Unit := do
  if Shape.isNothing reply then print nothing
  else
    let rows ← shaped (Shape.items reply)
    rows.forM (fun row => do print (← shaped (line row)))

/-- The line of a design. -/
def designLine (design : Json) : Except ShapeFault String := do
  let id ← Cell.ofJson 24 (← Shape.member design "id")
  let length ← Shape.length (← Shape.member design "messages")
  let updated ← Shape.member design "updated_at"
  return "  " ++ id ++ " " ++ Cell.padStart 3 (Number.intText length) ++ " msgs  " ++ updated.asText

/-- Lists the designs (`cmd_designs`). -/
def printDesigns (base : String) : Program Unit := do
  printTable (← ask base .listDesigns) "No designs stored." designLine

/-- The line of a device. -/
def deviceLine (device : Json) : Except ShapeFault String := do
  let id ← Cell.ofJson 24 (← Shape.member device "id")
  let platform ← Cell.ofJson 10 (← Shape.member device "platform")
  let connected ← Shape.member device "connected_at"
  return "  " ++ id ++ " " ++ platform ++ " " ++ connected.asText

/-- Lists the devices (`cmd_devices`). -/
def printDevices (base : String) : Program Unit := do
  printTable (← ask base .listDevices) "No devices connected." deviceLine

end UiSurface.Command
