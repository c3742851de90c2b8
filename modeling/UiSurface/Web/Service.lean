import UiSurface.Design.Personal
import UiSurface.Design.Preview
import UiSurface.Design.Save
import UiSurface.Device.Session
import UiSurface.Web.Request
import UiSurface.Web.Resource

/-!
# The service — designs and devices over requests and sockets

A service keeps designs and knows the connected devices.  A request is answered at once; a socket
has a session from the time it is opened to the time it ends.  A batch is pushed only if it has no
structural problem, and kept as a design only if it has no problem at all.

Main lemma: `pushMessages_of_structural` (a batch that is refused reaches no device).
-/

namespace UiSurface

/-- A service. -/
structure Service where
  storage : Storage
  registry : Registry
  wire : Wire
  /-- the session of each socket -/
  sessions : Record Session
  /-- whether the older form of data model update is accepted -/
  acceptsOverlay : Bool
  /-- the time that previews show -/
  now : Stamp
  /-- the text of the time that answers carry -/
  clock : String

namespace Service

/-- Why a request was not answered. -/
inductive Fault where
  | storage (fault : StorageFault)
  | batch (fault : Store.ImportFault)
  | gate (fault : Design.GateFault)
  | digits (fault : TooManyDigits)
  | request (fault : RequestFault)
  | depth (fault : Answer.DepthFault)
  | writing (fault : Answer.WritingFault)

/-- A service with nothing in it but its storage. -/
def new (storage : Storage) (acceptsOverlay : Bool) (now : Stamp) (clock : String) : Service :=
  ⟨storage, [], Wire.empty, [], acceptsOverlay, now, clock⟩

/-! ## Designs -/

def encodeDesign (s : Service) (d : Design) : Json :=
  .obj [("id", .str d.id), ("name", .str d.name), ("messages", d.batch),
    ("updated_at", .str s.clock)]

/-- Answers with what is to be said of a design, if there is one under an id (`_load`). -/
def withDesign (s : Service) (id : String) (answer : Design → Except Fault Answer) :
    Except Fault Answer :=
  match s.storage.get? id with
  | .error fault => .error (.storage fault)
  | .ok none => .ok Answer.noDesign
  | .ok (some design) => answer design

/-- Answers with what is to be said of the surface of a design; a design that is no sound batch is
refused. -/
def withSurface (s : Service) (design : Design) (answer : Surface → Except Fault Answer) :
    Except Fault Answer :=
  match design.fold s.acceptsOverlay with
  | .ok surface => answer surface
  | .error (.rejected problems) => .ok (Answer.rejected problems)
  | .error fault => .error (.batch fault)

/-- An answer with a body that holds values of any shape. -/
def answerWith (fault : Answer.DepthFault) (values : List Json) (status : Nat) (body : Json) :
    Except Fault Answer :=
  (Answer.withValues fault values (.json status body)).mapError .depth

def listDesigns (s : Service) : Except Fault Answer :=
  match s.storage.list with
  | .ok designs =>
    answerWith .atWriting (designs.flatMap Design.values) 200 (.arr (designs.map s.encodeDesign))
  | .error fault => .error (.storage fault)

/-- One design. -/
def showDesign (s : Service) (id : String) : Except Fault Answer :=
  s.withDesign id fun design => answerWith .atWriting design.values 200 (s.encodeDesign design)

/-- A design as it is shown (`preview_design`). -/
def previewDesign (s : Service) (id : String) : Except Fault Answer :=
  s.withDesign id fun design => s.withSurface design fun surface =>
    match Preview.ofSurface surface s.now with
    | .ok preview => answerWith .atAssembly preview.values 200 preview.encode
    | .error fault => .error (.digits fault)

/-- The bindings of a design (`design_bindings`). -/
def showBindings (s : Service) (id : String) : Except Fault Answer :=
  s.withDesign id fun design => s.withSurface design fun surface =>
    let bound := surface.boundProperties
    answerWith .atAssembly (bound.map Surface.BoundProperty.value) 200
      (.obj [("design_id", .str id), ("bindings", .arr (bound.map Surface.BoundProperty.encode))])

/-- Saves a batch as a design, if nothing is wrong with it (`save_design`).  A design that is too deep
to be shown is kept all the same. -/
def saveDesign (s : Service) (request : Design.SaveRequest) : Service × Except Fault Answer :=
  match Design.saveProblems s.acceptsOverlay request with
  | .error fault => (s, .error (.gate fault))
  | .ok (p :: ps) => (s, .ok (Answer.rejected (p :: ps)))
  | .ok [] =>
    match s.storage.put (Design.idOf request.messages "") (.arr request.messages) with
    | (storage, .ok design) =>
      ({ s with storage := storage },
        answerWith .atAssembly design.values 201 (s.encodeDesign design))
    | (storage, .error fault) => ({ s with storage := storage }, .error (.storage fault))

/-! ## Devices -/

/-- The connected devices (`list_devices`). -/
def listDevices (s : Service) : Answer :=
  .json 200 (.arr (s.registry.map fun e =>
    .obj [("id", .str e.1), ("platform", .str e.2.platform), ("connected_at", .str s.clock)]))

/-- The answer that says how many devices got a batch. -/
def pushed (count : Nat) : Answer := .json 200 (.obj [("pushed", .ofInt count)])

/-- Pushes a batch to every device. -/
def pushToAll (s : Service) (messages : List Json) : Service × Answer :=
  let (registry, wire, count) := s.registry.pushAll s.wire messages
  ({ s with registry := registry, wire := wire }, pushed count)

/-- Pushes a batch to one device. -/
def pushToOne (s : Service) (id : String) (messages : List Json) : Service × Answer :=
  let (registry, wire, got) := s.registry.push s.wire id messages
  ({ s with registry := registry, wire := wire },
    if got then pushed 1 else .detail 404 "Device not connected.")

/-- Pushes a batch that has no structural problem (`push_messages`). -/
def pushMessages (s : Service) (request : Body.Push) : Service × Answer :=
  let problems := Validation.incremental (.arr request.messages)
  if hasStructural problems then (s, Answer.rejected problems)
  -- problems of reference are left to the devices
  else match request.device with
    | some id => s.pushToOne id request.messages
    | none => s.pushToAll request.messages

/-- A batch with a structural problem is not pushed. -/
theorem pushMessages_of_structural (s : Service) (request : Body.Push)
    (h : hasStructural (Validation.incremental (.arr request.messages)) = true) :
    (s.pushMessages request).1 = s := by
  simp [pushMessages, h]

/-- A design as it is pushed: with an overlay, if there is one. -/
def pushedMessages (design : Design) (overlay : Record Json) : List Json :=
  let messages := design.messages.map .obj
  if overlay.isEmpty then messages else Design.personalise messages overlay

/-- Pushes a design to every device (`push_design`). -/
def pushDesign (s : Service) (request : Body.PushDesign) : Service × Except Fault Answer :=
  match s.storage.get? request.design with
  | .error fault => (s, .error (.storage fault))
  | .ok none => (s, .ok Answer.noDesign)
  | .ok (some design) =>
    let (s, answer) := s.pushToAll (pushedMessages design request.overlay)
    (s, .ok answer)

/-! ## Requests -/

/-- Refuses a body that is not as it must be. -/
def refuseBody (fault : BodyFault) : Except Fault Answer :=
  match Answer.badBody? fault with
  | none => .error (.request .notFinite)
  | some answer => match Answer.unsaid? fault with
    | none => .ok answer
    | some fault => .error (.writing fault)

/-- Answers a request that changes something, once its body is read. -/
def post (s : Service) (resource : Resource) (body : String) : Service × Except Fault Answer :=
  match resource with
  | .designs => match Body.save body with
    | .ok request => s.saveDesign request
    | .error fault => (s, refuseBody fault)
  | .push => match Body.push body with
    | .ok request =>
      let (s, answer) := s.pushMessages request
      (s, .ok answer)
    | .error fault => (s, refuseBody fault)
  | .pushDesign => match Body.pushDesign body with
    | .ok request => s.pushDesign request
    | .error fault => (s, refuseBody fault)
  | _ => (s, .ok Answer.methodNotAllowed)

/-- Answers a request that changes nothing. -/
def get (s : Service) : Resource → Except Fault Answer
  | .designs => s.listDesigns
  | .design id => s.showDesign id
  | .preview id => s.previewDesign id
  | .bindings id => s.showBindings id
  | .devices => .ok s.listDevices
  | .health => .ok (.json 200 (.obj [("status", .str "ok")]))
  | .push | .pushDesign => .ok Answer.methodNotAllowed

/-- Writes an answer, if there is one and UTF-8 has it. -/
def write (writing : Answer.Writing) (answer : Except Fault Answer) : Except Fault Answer :=
  answer.bind fun answer => match answer.unwritten? writing with
    | none => .ok answer
    | some fault => .error (.writing fault)

/-- How the answer to a request that changes nothing is written. -/
def writing : Resource → Answer.Writing
  | .designs | .design _ | .devices => .inPieces
  | .preview _ | .bindings _ | .health | .push | .pushDesign => .whole

/-- Answers a request for a resource. -/
def handleResource (s : Service) (method : String) (resource : Resource) (body : String) :
    Service × Except Fault Answer :=
  if !resource.methods.contains method then (s, .ok Answer.methodNotAllowed)
  else if method == "POST" then
    let (s, answer) := s.post resource body
    -- what the request has changed stays so, though its answer be lost
    (s, write .whole answer)
  else (s, write (writing resource) (s.get resource))

/-- An answer without its body, for a request that asks for none. -/
def bodiless (method : String) (answer : Answer) : Answer :=
  if method == "HEAD" then { answer with body := none } else answer

/-- Answers a request for the place of an address. -/
def answer (s : Service) (request : Request) (place : String) : Service × Except Fault Answer :=
  -- where the path leads is asked before the method
  match Route.ofPath place.toList with
  | .found resource => s.handleResource request.method resource request.payload.toText
  | .redirect => (s, .ok Answer.redirect)
  | .nowhere => (s, .ok Answer.notFound)

/-- Answers a request. -/
def handle (s : Service) (request : Request) : Service × Except Fault Answer :=
  match request.address with
  | .error fault => (s, .error (.request fault))
  | .ok url =>
    let (s, answer) := s.answer request url.tidied.place
    (s, answer.map (bodiless request.method))

/-! ## Sockets -/

/-- What the session of a socket works on. -/
def sessionState (s : Service) (session : Session) : SessionState := ⟨session, s.registry, s.wire⟩

/-- The service after the session of a socket has done something. -/
def setSession (s : Service) (socket : String) (state : SessionState) : Service :=
  { s with
    sessions := Record.put s.sessions socket state.session
    registry := state.registry
    wire := state.wire }

/-- Opens a socket at a time in milliseconds. -/
def openSocket (s : Service) (socket : String) (milliseconds : Nat) : Service :=
  { s with sessions := Record.put s.sessions socket (Session.start milliseconds) }

/-- Lets the session of a socket do something, and says what ended it before its socket, if that
happened.  A session that has ended does nothing more. -/
def onSession (s : Service) (socket : String) (act : SessionState → SessionState) :
    Service × Option SessionFault :=
  match Record.get? s.sessions socket with
  | some (.alive id registered) =>
    let state := act (s.sessionState (.alive id registered))
    (s.setSession socket state, state.session.fault?)
  | some (.ended _) | none => (s, none)

/-- Takes a text from a socket. -/
def receive (s : Service) (socket text : String) : Service × Option SessionFault :=
  s.onSession socket (fun state => state.receive socket text)

/-- Closes a socket. -/
def closeSocket (s : Service) (socket : String) : Service × Option SessionFault :=
  s.onSession socket (fun state => state.finish socket none)

end Service

end UiSurface
