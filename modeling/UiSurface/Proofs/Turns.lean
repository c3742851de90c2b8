import UiSurface.Proofs.Records
import UiSurface.Web.Service

/-!
# Turns — what the service does between two waits

Sockets and requests take turns.  A session waits for a text; it waits again before it registers, for
the registry may be in use, and once more until the device was told.  A push waits for each device that
it sends to.  Between two waits nobody else does anything; at a wait everybody else may.

`Traffic` is a service with all that is under way in it, a `Turn` is what is done between two waits, and
a run is turns in any order.  A turn that cannot be taken changes nothing.  What goes on at a socket by
itself, it breaks or is mended, is a turn as well, so sending may fail at any time.

What the service does at once, as though nobody waited, is one of these orders.  So what holds after
all turns holds of a service that does one thing after the other.

Main lemmas: `Traffic.taken_step` (what a turn does), `SessionState.receive_eq` and `Traffic.run_receive`
(a text in turns), `Traffic.run_push` (a push that nobody comes between),
`Traffic.exists_run_foldl_perform`.
-/

namespace UiSurface

/-! ## The turns of a session -/

/-- What a session has to do yet. -/
inductive Pending where
  /-- it gave up the id that it is not to have any more, and has to register -/
  | register (r : Registration)
  /-- it registered, and has to tell the device -/
  | acknowledge
deriving DecidableEq

namespace SessionState

/-- Takes a text.  If it is a registration, it is still to be made: only the id before is given up. -/
def take (s : SessionState) (socket text : String) : SessionState × Option Registration :=
  match s.session with
  | .ended _ => (s, none)
  | .alive id _ => match Json.ofText text with
    | .ok v => match Frame.registration? v with
      | some r => ({ s with registry := s.giveUp socket (r.id.getD id) }, some r)
      | none => (s, none)
    | .error (.digits fault) => (s.finish socket (some (.digits fault)), none)
    | .error (.malformed ..) => (s, none)

/-- Makes a registration. -/
def enrol (s : SessionState) (socket : String) (r : Registration) : SessionState :=
  match s.session with
  | .ended _ => s
  | .alive id _ =>
    { s with
      session := .alive (r.id.getD id) true
      registry := s.registry.register (r.id.getD id) r.platform socket }

/-- What comes of telling a device: the text is sent, or the session ends. -/
inductive Told (s : SessionState) (socket : String) : SessionState → Prop
  | idle {fault : Option SessionFault} (hsession : s.session = .ended fault) : Told s socket s
  | told {id text : String} {registered : Bool} (hsession : s.session = .alive id registered)
      (htext : Frame.acknowledge id = .ok text) (hworks : s.wire.works socket = true) :
      Told s socket { s with wire := s.wire.send socket text }
  | failed {id : String} {registered : Bool} (fault : SessionFault)
      (hsession : s.session = .alive id registered)
      (hfails : s.wire.works socket = false ∨ ∃ reason, Frame.acknowledge id = .error reason) :
      Told s socket (s.finish socket (some fault))

/-- To tell a device its id comes to one of three things. -/
theorem told_tell (s : SessionState) (socket : String) : s.Told socket (s.tell socket) := by
  unfold tell
  -- the session has ended, the acknowledgement can not be written, or it is sent or not
  split
  · rename_i fault hsession
    exact .idle hsession
  · rename_i id registered hsession
    split
    · rename_i reason hreason
      exact .failed _ hsession (Or.inr ⟨reason, hreason⟩)
    · rename_i text htext
      split
      · rename_i hworks
        exact .told hsession htext hworks
      · rename_i hbroken
        exact .failed _ hsession (Or.inl (Bool.eq_false_iff.mpr hbroken))

/-- A registration that is still to be made leaves the session as it was. -/
theorem session_take {s t : SessionState} {socket text : String} {r : Registration}
    (h : s.take socket text = (t, some r)) : t.session = s.session := by
  unfold take at h
  split at h
  · cases h
  · split at h
    · split at h
      · cases h
        rfl
      · cases h
    · cases h
    · cases h

/-- To receive a text is to take it, to make the registration that it is, and to tell the device. -/
theorem receive_eq (s : SessionState) (socket text : String) :
    s.receive socket text = match s.take socket text with
      | (t, some r) => (t.enrol socket r).tell socket
      | (t, none) => t := by
  obtain ⟨session, registry, wire⟩ := s
  cases session with
  | ended fault => rfl
  | alive id registered =>
    simp only [receive, take]
    cases Json.ofText text with
    | error fault => cases fault <;> rfl
    | ok v =>
      dsimp only
      cases Frame.registration? v <;> rfl

end SessionState

/-! ## The turns of a push -/

/-- A push on its round of the devices that were there when it began. -/
structure Round where
  /-- the id of the device that it is for; without one it is for all -/
  device : Option String
  text : String
  /-- those that it still has to come to -/
  waiting : List (String × Device)
  /-- those that got the text, in order -/
  reached : List (String × Device)
  /-- those that did not -/
  missed : List (String × Device)

namespace Round

/-- The devices that a push is for, with their ids. -/
def addressees (r : Registry) : Option String → List (String × Device)
  | none => r
  | some id => (Record.get? r id).toList.map fun device => (id, device)

/-- The round of a push as it begins. -/
def start (r : Registry) (device : Option String) (messages : List Json) : Round :=
  ⟨device, Frame.messages messages, addressees r device, [], []⟩

/-- A round that has come to one of its devices. -/
def visit (p : Round) (index : Nat) (e : String × Device) (got : Bool) : Round :=
  { p with
    waiting := p.waiting.eraseIdx index
    reached := if got then p.reached ++ [e] else p.reached
    missed := if got then p.missed else p.missed ++ [e] }

def answer (device : Option String) (count : Nat) : Answer :=
  match device with
  | none => Service.pushed count
  | some _ => if count = 0 then .detail 404 "Device not connected." else Service.pushed 1

/-- The answer to a push, once it has come to all of its devices. -/
def answer? (p : Round) : Option Answer :=
  if p.waiting.isEmpty then some (answer p.device p.reached.length) else none

end Round

/-- What the service does at once with a batch that it pushes. -/
theorem Service.pushMessages_of_sound (s : Service) {request : Body.Push}
    (h : hasStructural (Validation.incremental (.arr request.messages)) = false) :
    let p := Round.start s.registry request.device request.messages
    let sent := s.registry.deliverAll s.wire p.text p.waiting
    s.pushMessages request = ({ s with registry := sent.1, wire := sent.2.1 },
      Round.answer request.device sent.2.2) := by
  obtain ⟨device, messages⟩ := request
  -- a push to one device is a tour of one stop, or of none if it is not there
  cases device with
  | none =>
    simp only [Service.pushMessages, h]
    rfl
  | some id =>
    cases hget : Record.get? s.registry id with
    | none =>
      simp only [Service.pushMessages, h, Service.pushToOne, Registry.push, Round.start,
        Round.addressees, hget]
      rfl
    | some device =>
      have hone : Round.addressees s.registry (some id) = [(id, device)] := by
        simp only [Round.addressees, hget, Option.toList_some, List.map_cons, List.map_nil]
      simp only [Service.pushMessages, h, Service.pushToOne, Registry.push, Round.start, hget, hone,
        Registry.deliverAll]
      cases hgot : (s.registry.deliver s.wire id device (Frame.messages messages)).2.2 <;> rfl

/-! ## Traffic -/

/-- A service with what is under way in it. -/
structure Traffic where
  service : Service
  /-- what the session of a socket has to do before it waits for a text again -/
  pending : Record Pending
  /-- the pushes, in the order in which they began -/
  rounds : List Round

/-- What is done between two waits. -/
inductive Turn where
  /-- a socket is opened, at a time in milliseconds -/
  | accept (socket : String) (milliseconds : Nat)
  /-- a session takes a text -/
  | take (socket text : String)
  /-- a session makes the registration that it took -/
  | enrol (socket : String)
  /-- a session tells its device -/
  | tell (socket : String)
  /-- a socket is closed -/
  | disconnect (socket : String)
  /-- a socket breaks, or is mended -/
  | disturb (socket : String) (broken : Bool)
  /-- somebody wishes to save a design -/
  | save (request : Design.SaveRequest)
  /-- a push begins -/
  | push (request : Body.Push)
  /-- the push of a design begins -/
  | pushDesign (request : Body.PushDesign)
  /-- a push, by its number, sends to one of the devices that it still has to come to -/
  | send (number index : Nat)

namespace Traffic

/-- A service in which nothing is under way. -/
def quiet (s : Service) : Traffic := ⟨s, [], []⟩

/-- The traffic after the session of a socket came to a state, with this to do yet. -/
def after (x : Traffic) (socket : String) (state : SessionState) (next : Option Pending) : Traffic :=
  { x with
    service := x.service.setSession socket state
    pending := match next with
      | some task => Record.put x.pending socket task
      | none => Record.erase x.pending socket }

/-- Lets the session of a socket do something, unless it has ended. -/
def onSession (x : Traffic) (socket : String)
    (act : SessionState → SessionState × Option Pending) : Traffic :=
  match Record.get? x.service.sessions socket with
  | some (.alive id registered) =>
    let (state, next) := act (x.service.sessionState (.alive id registered))
    x.after socket state next
  | some (.ended _) | none => x

/-- Lets a push send to one of the devices that it still has to come to. -/
def send (x : Traffic) (number index : Nat) : Traffic :=
  match x.rounds[number]? with
  | none => x
  | some p => match p.waiting[index]? with
    | none => x
    | some e =>
      let (registry, wire, got) := x.service.registry.deliver x.service.wire e.1 e.2 p.text
      { x with
        service := { x.service with registry := registry, wire := wire }
        rounds := x.rounds.set number (p.visit index e got) }

def begin (x : Traffic) (device : Option String) (messages : List Json) : Traffic :=
  { x with rounds := x.rounds ++ [Round.start x.service.registry device messages] }

/-- The traffic after a turn. -/
def step (x : Traffic) : Turn → Traffic
  | .accept socket milliseconds =>
    -- a socket is opened once
    if Record.has x.service.sessions socket then x
    else { x with service := x.service.openSocket socket milliseconds }
  | .take socket text => match Record.get? x.pending socket with
    | none => x.onSession socket fun s =>
      ((s.take socket text).1, (s.take socket text).2.map Pending.register)
    | some _ => x
  | .enrol socket => match Record.get? x.pending socket with
    | some (.register r) => x.onSession socket fun s => (s.enrol socket r, some .acknowledge)
    | some .acknowledge | none => x
  | .tell socket => match Record.get? x.pending socket with
    | some .acknowledge => x.onSession socket fun s => (s.tell socket, none)
    | some (.register _) | none => x
  | .disconnect socket => x.onSession socket fun s => (s.finish socket none, none)
  | .disturb socket broken =>
    { x with service := { x.service with wire := x.service.wire.setBroken socket broken } }
  | .save request => { x with service := (x.service.saveDesign request).1 }
  | .push request =>
    if hasStructural (Validation.incremental (.arr request.messages)) then x
    else x.begin request.device request.messages
  | .pushDesign request => match x.service.storage.get? request.design with
    | .ok (some design) => x.begin none (Service.pushedMessages design request.overlay)
    | .ok none | .error _ => x
  | .send number index => x.send number index

def run (x : Traffic) (turns : List Turn) : Traffic := turns.foldl step x

theorem run_append (x : Traffic) (turns later : List Turn) :
    x.run (turns ++ later) = (x.run turns).run later := List.foldl_append

/-! ## What a turn does -/

/-- What comes of a turn: nothing, where it cannot be taken, or else what is said here. -/
inductive Taken (x : Traffic) : Turn → Traffic → Prop
  | idle (t : Turn) : Taken x t x
  | accept {socket : String} (milliseconds : Nat)
      (hsession : Record.get? x.service.sessions socket = none) :
      Taken x (.accept socket milliseconds)
        { x with service := x.service.openSocket socket milliseconds }
  | take {socket id : String} {registered : Bool} (text : String)
      (hsession : Record.get? x.service.sessions socket = some (.alive id registered))
      (hpending : Record.get? x.pending socket = none) :
      Taken x (.take socket text)
        (x.after socket ((x.service.sessionState (.alive id registered)).take socket text).1
          (((x.service.sessionState (.alive id registered)).take socket text).2.map .register))
  | enrol {socket id : String} {registered : Bool} {r : Registration}
      (hsession : Record.get? x.service.sessions socket = some (.alive id registered))
      (hpending : Record.get? x.pending socket = some (.register r)) :
      Taken x (.enrol socket) (x.after socket
        ((x.service.sessionState (.alive id registered)).enrol socket r) (some .acknowledge))
  | tell {socket id : String} {registered : Bool}
      (hsession : Record.get? x.service.sessions socket = some (.alive id registered))
      (hpending : Record.get? x.pending socket = some .acknowledge) :
      Taken x (.tell socket)
        (x.after socket ((x.service.sessionState (.alive id registered)).tell socket) none)
  | disconnect {socket id : String} {registered : Bool}
      (hsession : Record.get? x.service.sessions socket = some (.alive id registered)) :
      Taken x (.disconnect socket)
        (x.after socket ((x.service.sessionState (.alive id registered)).finish socket none) none)
  | disturb (socket : String) (broken : Bool) : Taken x (.disturb socket broken)
      { x with service := { x.service with wire := x.service.wire.setBroken socket broken } }
  | save (request : Design.SaveRequest) (storage : Storage) :
      Taken x (.save request) { x with service := { x.service with storage := storage } }
  | push (request : Body.Push) :
      Taken x (.push request) (x.begin request.device request.messages)
  | pushDesign (request : Body.PushDesign) (design : Design) :
      Taken x (.pushDesign request) (x.begin none (Service.pushedMessages design request.overlay))
  | send {number index : Nat} {p : Round} {e : String × Device}
      (hround : x.rounds[number]? = some p) (hwaiting : p.waiting[index]? = some e) :
      Taken x (.send number index) (x.send number index)

/-- A turn of a session does something if the session is alive. -/
theorem taken_onSession {x : Traffic} {t : Turn} {socket : String}
    {act : SessionState → SessionState × Option Pending}
    (h : ∀ id registered, Record.get? x.service.sessions socket = some (.alive id registered) →
      x.Taken t (x.after socket (act (x.service.sessionState (.alive id registered))).1
        (act (x.service.sessionState (.alive id registered))).2)) :
    x.Taken t (x.onSession socket act) := by
  cases hsession : Record.get? x.service.sessions socket with
  | none => simpa only [onSession, hsession] using .idle t
  | some session =>
    cases session with
    | ended fault => simpa only [onSession, hsession] using .idle t
    | alive id registered => simpa only [onSession, hsession] using h id registered hsession

/-- Every turn takes what it takes, if anything. -/
theorem taken_step (x : Traffic) (t : Turn) : x.Taken t (x.step t) := by
  cases t with
  | accept socket milliseconds =>
    simp only [step]
    split
    · exact .idle _
    · rename_i hclosed
      refine .accept milliseconds ?_
      simpa [Record.has] using hclosed
  | take socket text =>
    simp only [step]
    split
    · rename_i hpending
      exact taken_onSession fun id registered hsession => .take text hsession hpending
    · exact .idle _
  | enrol socket =>
    simp only [step]
    split
    · rename_i r hpending
      exact taken_onSession fun id registered hsession => .enrol hsession hpending
    · exact .idle _
    · exact .idle _
  | tell socket =>
    simp only [step]
    split
    · rename_i hpending
      exact taken_onSession fun id registered hsession => .tell hsession hpending
    · exact .idle _
    · exact .idle _
  | disconnect socket =>
    simp only [step]
    exact taken_onSession fun id registered hsession => .disconnect hsession
  | disturb socket broken => exact .disturb socket broken
  | save request =>
    -- saving changes nothing but the storage, whatever comes of it
    have hsave : ∃ storage, (x.service.saveDesign request).1 = { x.service with storage := storage } := by
      unfold Service.saveDesign
      split
      · exact ⟨x.service.storage, rfl⟩
      · exact ⟨x.service.storage, rfl⟩
      · split <;> exact ⟨_, rfl⟩
    obtain ⟨storage, hsave⟩ := hsave
    simp only [step, hsave]
    exact .save request storage
  | push request =>
    simp only [step]
    split
    · exact .idle _
    · exact .push request
  | pushDesign request =>
    simp only [step]
    split
    · exact .pushDesign request _
    · exact .idle _
    · exact .idle _
  | send number index =>
    cases hround : x.rounds[number]? with
    | none => simpa only [step, send, hround] using .idle _
    | some p =>
      cases hwaiting : p.waiting[index]? with
      | none => simpa only [step, send, hround, hwaiting] using .idle _
      | some e => exact .send hround hwaiting

/-! ## What is done at once, in turns -/

section Session

variable (x : Traffic) {socket : String}

theorem onSession_of_alive {id : String} {registered : Bool}
    (h : Record.get? x.service.sessions socket = some (.alive id registered))
    (act : SessionState → SessionState × Option Pending) :
    x.onSession socket act = x.after socket (act (x.service.sessionState (.alive id registered))).1
      (act (x.service.sessionState (.alive id registered))).2 := by
  simp only [onSession, h]

/-- A session goes on from the state that it came to. -/
theorem onSession_after {t : SessionState} {id : String} {registered : Bool}
    (h : t.session = .alive id registered) (task : Pending)
    (act : SessionState → SessionState × Option Pending) :
    (x.after socket t (some task)).onSession socket act = x.after socket (act t).1 (act t).2 := by
  have hsession : Record.get? (x.after socket t (some task)).service.sessions socket =
      some (.alive id registered) := by
    rw [← h]
    exact Record.get?_put_self _ _ _
  have hstate : (x.after socket t (some task)).service.sessionState (.alive id registered) = t := by
    rw [← h]
    rfl
  rw [onSession_of_alive _ hsession, hstate]
  simp only [after, Service.setSession, Record.put_put, Record.erase_put]

/-- A session that has nothing more to do waits for a text again. -/
theorem after_of_pending (h : Record.get? x.pending socket = none) (t : SessionState) :
    x.after socket t none = { x with service := x.service.setSession socket t } := by
  have hpending := Record.erase_of_not_mem ((Record.get?_eq_none_iff _ _).mp h)
  simp only [after, hpending]

/-- A socket is closed in one turn. -/
theorem step_disconnect (h : Record.get? x.pending socket = none) :
    x.step (.disconnect socket) = { x with service := (x.service.closeSocket socket).1 } := by
  simp only [step, onSession, Service.closeSocket, Service.onSession]
  rcases Record.get? x.service.sessions socket with _ | ⟨id, registered⟩ | fault
  · rfl
  · exact x.after_of_pending h _
  · rfl

/-- A session that waits for a text receives one in three turns. -/
theorem run_receive (h : Record.get? x.pending socket = none) (text : String) :
    x.run [.take socket text, .enrol socket, .tell socket] =
      { x with service := (x.service.receive socket text).1 } := by
  have hrun : x.run [.take socket text, .enrol socket, .tell socket] =
      ((x.step (.take socket text)).step (.enrol socket)).step (.tell socket) := rfl
  have hreceive : (x.service.receive socket text).1 =
      (x.service.onSession socket fun s => s.receive socket text).1 := rfl
  rw [hrun, hreceive]
  unfold Service.onSession
  cases hsession : Record.get? x.service.sessions socket with
  | none => simp [step, onSession, h, hsession]
  | some session =>
    cases session with
    | ended fault => simp [step, onSession, h, hsession]
    | alive id registered =>
      simp only [SessionState.receive_eq]
      -- taking the text leaves nothing to do, or a registration with its two further turns
      cases htake : (x.service.sessionState (.alive id registered)).take socket text with
      | mk t next =>
        have hfirst : x.step (.take socket text) = x.after socket t (next.map .register) := by
          simp only [step, h, x.onSession_of_alive hsession, htake]
        rw [hfirst]
        cases next with
        | none => simp [step, x.after_of_pending h, h]
        | some r =>
          have htask : ∀ u task, Record.get? (x.after socket u (some task)).pending socket =
              some task := fun u task => Record.get?_put_self _ _ _
          have hsecond : (x.after socket t (some (.register r))).step (.enrol socket) =
              x.after socket (t.enrol socket r) (some .acknowledge) := by
            simp only [step, htask, x.onSession_after (SessionState.session_take htake)]
          have hthird : (x.after socket (t.enrol socket r) (some .acknowledge)).step (.tell socket) =
              x.after socket ((t.enrol socket r).tell socket) none := by
            have henrolled : (t.enrol socket r).session = .alive (r.id.getD id) true := by
              simp only [SessionState.enrol, SessionState.session_take htake]
              rfl
            simp only [step, htask, x.onSession_after henrolled]
          rw [Option.map_some, hsecond, hthird, x.after_of_pending h]

end Session

section Push

/-- A batch without a structural problem is pushed. -/
theorem step_push (x : Traffic) {request : Body.Push}
    (h : hasStructural (Validation.incremental (.arr request.messages)) = false) :
    x.step (.push request) = x.begin request.device request.messages := by
  simp only [step, h, Bool.false_eq_true, if_false]

/-- A design that is there is pushed to all. -/
theorem step_pushDesign (x : Traffic) {request : Body.PushDesign} {design : Design}
    (h : x.service.storage.get? request.design = .ok (some design)) :
    x.step (.pushDesign request) =
      x.begin none (Service.pushedMessages design request.overlay) := by
  simp only [step, h]

/-- What becomes of a push that sends to one of its devices. -/
theorem rounds_send (x : Traffic) {number index : Nat} {p : Round} {e : String × Device}
    (hp : x.rounds[number]? = some p) (he : p.waiting[index]? = some e) :
    (x.send number index).rounds =
      x.rounds.set number (p.visit index e (x.service.wire.works e.2.socket)) := by
  have hgot : (x.service.registry.deliver x.service.wire e.1 e.2 p.text).2.2 =
      x.service.wire.works e.2.socket := by
    unfold Registry.deliver
    cases x.service.wire.works e.2.socket <;> rfl
  simp only [send, hp, he, hgot]

theorem getElem?_rounds_send (x : Traffic) {number index : Nat} {p : Round} {e : String × Device}
    (hp : x.rounds[number]? = some p) (he : p.waiting[index]? = some e) :
    (x.send number index).rounds[number]? =
      some (p.visit index e (x.service.wire.works e.2.socket)) := by
  obtain ⟨hlt, -⟩ := List.getElem?_eq_some_iff.mp hp
  rw [x.rounds_send hp he]
  exact List.getElem?_set_self hlt

/-- A push that sends changes the service as a delivery does. -/
theorem service_send (x : Traffic) {number index : Nat} {p : Round} {e : String × Device}
    (hp : x.rounds[number]? = some p) (he : p.waiting[index]? = some e) :
    (x.send number index).service = { x.service with
      registry := (x.service.registry.deliver x.service.wire e.1 e.2 p.text).1
      wire := (x.service.registry.deliver x.service.wire e.1 e.2 p.text).2.1 } := by
  simp only [send, hp, he]

/-- A push that nobody comes between sends to one device after the other, in as many turns. -/
theorem run_sends {x : Traffic} {number : Nat} {p : Round} (h : x.rounds[number]? = some p) :
    let sent := x.service.registry.deliverAll x.service.wire p.text p.waiting
    let y := x.run (List.replicate p.waiting.length (.send number 0))
    y.service = { x.service with registry := sent.1, wire := sent.2.1 } ∧
      ∃ q, y.rounds[number]? = some q ∧ q.device = p.device ∧ q.waiting = [] ∧
        q.reached.length = p.reached.length + sent.2.2 := by
  obtain ⟨device, text, waiting, reached, missed⟩ := p
  -- by the devices that are waiting: each turn sends to the first of them
  induction waiting generalizing x reached missed with
  | nil => exact ⟨rfl, _, h, rfl, rfl, rfl⟩
  | cons e waiting ih =>
    have hfirst : (Round.mk device text (e :: waiting) reached missed).waiting[0]? = some e := rfl
    have hround := x.getElem?_rounds_send h hfirst
    have hservice := x.service_send h hfirst
    have hrun : x.run (List.replicate (e :: waiting).length (.send number 0)) =
        (x.send number 0).run (List.replicate waiting.length (.send number 0)) := rfl
    obtain ⟨hrest, q, hq, hdevice, hwaiting, hreached⟩ := ih _ _ hround
    rw [hservice] at hrest hreached
    rw [hrun]
    refine ⟨hrest, q, hq, hdevice, hwaiting, hreached.trans ?_⟩
    cases hworks : x.service.wire.works e.2.socket with
    | true =>
      simp only [Registry.deliverAll, Registry.deliver, hworks, if_true, List.length_append,
        List.length_singleton]
      exact Nat.add_right_comm _ _ _
    | false =>
      simp only [Registry.deliverAll, Registry.deliver, hworks, Bool.false_eq_true, if_false]

/-- So the whole round of a push is one order of turns, after which it is answered. -/
theorem run_begin (x : Traffic) (device : Option String) (messages : List Json) :
    let p := Round.start x.service.registry device messages
    let sent := x.service.registry.deliverAll x.service.wire p.text p.waiting
    let y := (x.begin device messages).run
      (List.replicate p.waiting.length (.send x.rounds.length 0))
    y.service = { x.service with registry := sent.1, wire := sent.2.1 } ∧
      ∃ q, y.rounds[x.rounds.length]? = some q ∧
        q.answer? = some (Round.answer device sent.2.2) := by
  have hp : (x.begin device messages).rounds[x.rounds.length]? =
      some (Round.start x.service.registry device messages) := List.getElem?_concat_length
  obtain ⟨hservice, q, hq, hdevice, hwaiting, hreached⟩ := run_sends hp
  refine ⟨hservice, q, hq, ?_⟩
  have hcount := hreached.trans (Nat.zero_add _)
  rw [Round.answer?, hwaiting, hdevice, hcount]
  rfl

/-- A push that the service makes at once is a push that nobody comes between, with the same answer. -/
theorem run_push (x : Traffic) {request : Body.Push}
    (h : hasStructural (Validation.incremental (.arr request.messages)) = false) :
    let count := (Round.addressees x.service.registry request.device).length
    let y := x.run (.push request :: List.replicate count (.send x.rounds.length 0))
    y.service = (x.service.pushMessages request).1 ∧ ∃ q, y.rounds[x.rounds.length]? = some q ∧
      q.answer? = some (x.service.pushMessages request).2 := by
  rw [x.service.pushMessages_of_sound h]
  simp only [run, List.foldl_cons, x.step_push h]
  exact x.run_begin request.device request.messages

/-- So it is with the push of a design. -/
theorem run_pushDesign (x : Traffic) {request : Body.PushDesign} {design : Design}
    (h : x.service.storage.get? request.design = .ok (some design)) :
    (x.run (.pushDesign request ::
        List.replicate x.service.registry.length (.send x.rounds.length 0))).service =
      (x.service.pushDesign request).1 := by
  have hpush : (x.service.pushDesign request).1 =
      (x.service.pushToAll (Service.pushedMessages design request.overlay)).1 := by
    simp only [Service.pushDesign, h]
  rw [hpush]
  simp only [run, List.foldl_cons, x.step_pushDesign h]
  exact (x.run_begin none (Service.pushedMessages design request.overlay)).1

end Push

end Traffic

/-! ## Everything at once -/

/-- What is done to a service, as though nobody waited. -/
inductive Deed where
  /-- a socket is opened, at a time in milliseconds -/
  | openSocket (socket : String) (milliseconds : Nat)
  | receive (socket text : String)
  | closeSocket (socket : String)
  /-- a socket breaks, or is mended -/
  | disturb (socket : String) (broken : Bool)
  | handle (request : Request)

namespace Service

def perform (s : Service) : Deed → Service
  | .openSocket socket milliseconds =>
    if Record.has s.sessions socket then s else s.openSocket socket milliseconds
  | .receive socket text => (s.receive socket text).1
  | .closeSocket socket => (s.closeSocket socket).1
  | .disturb socket broken => { s with wire := s.wire.setBroken socket broken }
  | .handle request => (s.handle request).1

/-- What comes of a request: a design is saved, a batch or a design is pushed, or nothing changes. -/
inductive Requested (s : Service) : Service → Prop
  | idle : Requested s s
  | save (request : Design.SaveRequest) : Requested s (s.saveDesign request).1
  | push (request : Body.Push) : Requested s (s.pushMessages request).1
  | pushDesign (request : Body.PushDesign) : Requested s (s.pushDesign request).1

theorem requested_post (s : Service) (resource : Resource) (body : String) :
    s.Requested (s.post resource body).1 := by
  unfold post
  split
  · split
    · exact .save _
    · exact .idle
  · split
    · exact .push _
    · exact .idle
  · split
    · exact .pushDesign _
    · exact .idle
  · exact .idle

/-- A request makes of a service what was asked for, and nothing else. -/
theorem requested_handle (s : Service) (request : Request) : s.Requested (s.handle request).1 := by
  have hanswer : ∀ place, s.Requested (s.answer request place).1 := by
    intro place
    unfold answer
    split
    · unfold handleResource
      split
      · exact .idle
      · split
        · exact s.requested_post _ _
        · exact .idle
    · exact .idle
    · exact .idle
  unfold handle
  split
  · exact .idle
  · exact hanswer _

end Service

namespace Traffic

theorem pending_sends (x : Traffic) (number count : Nat) :
    (x.run (List.replicate count (.send number 0))).pending = x.pending := by
  induction count generalizing x with
  | zero => rfl
  | succ count ih =>
    have hsend : (x.send number 0).pending = x.pending := by
      unfold send
      split
      · rfl
      · split <;> rfl
    exact (ih (x.send number 0)).trans hsend

/-- So is what a request does, one order of turns. -/
theorem exists_run_requested {x : Traffic} {s : Service} (h : x.service.Requested s) :
    ∃ turns, (x.run turns).service = s ∧ (x.run turns).pending = x.pending := by
  -- a request that is refused needs no turn
  cases h with
  | idle => exact ⟨[], rfl, rfl⟩
  | save request => exact ⟨[.save request], rfl, rfl⟩
  | push request =>
    cases hsound : hasStructural (Validation.incremental (.arr request.messages)) with
    | true => exact ⟨[], (x.service.pushMessages_of_structural request hsound).symm, rfl⟩
    | false =>
      have hbegun : (x.step (.push request)).pending = x.pending := by
        rw [x.step_push hsound]
        rfl
      exact ⟨_, (x.run_push hsound).1, (pending_sends _ _ _).trans hbegun⟩
  | pushDesign request =>
    rcases hget : x.service.storage.get? request.design with fault | _ | design
    · exact ⟨[], by simp only [Service.pushDesign, hget]; rfl, rfl⟩
    · exact ⟨[], by simp only [Service.pushDesign, hget]; rfl, rfl⟩
    · have hbegun : (x.step (.pushDesign request)).pending = x.pending := by
        rw [x.step_pushDesign hget]
        rfl
      exact ⟨_, x.run_pushDesign hget, (pending_sends _ _ _).trans hbegun⟩

/-- Where no session has anything to do yet, a deed is one order of turns, and so it is again after. -/
theorem exists_run_perform {x : Traffic} (h : x.pending = []) (d : Deed) :
    ∃ turns, (x.run turns).service = x.service.perform d ∧ (x.run turns).pending = [] := by
  have hfree : ∀ socket, Record.get? x.pending socket = none := by simp [h]
  cases d with
  | openSocket socket milliseconds =>
    refine ⟨[.accept socket milliseconds], ?_⟩
    simp only [run, List.foldl_cons, List.foldl_nil, step, Service.perform]
    split
    · exact ⟨rfl, h⟩
    · exact ⟨rfl, h⟩
  | receive socket text =>
    -- nothing is pending, so the three turns of a text follow one another
    refine ⟨[.take socket text, .enrol socket, .tell socket], ?_⟩
    rw [x.run_receive (hfree socket)]
    exact ⟨rfl, h⟩
  | closeSocket socket =>
    refine ⟨[.disconnect socket], ?_⟩
    simp only [run, List.foldl_cons, List.foldl_nil, x.step_disconnect (hfree socket)]
    exact ⟨rfl, h⟩
  | disturb socket broken => exact ⟨[.disturb socket broken], rfl, h⟩
  | handle request =>
    obtain ⟨turns, hservice, hpending⟩ := exists_run_requested (x.service.requested_handle request)
    exact ⟨turns, hservice, hpending.trans h⟩

/-- So whatever is done to a service, there are turns that lead to where it is. -/
theorem exists_run_foldl_perform (s : Service) (deeds : List Deed) :
    ∃ turns, ((quiet s).run turns).service = deeds.foldl Service.perform s := by
  have hany : ∀ x : Traffic, x.pending = [] →
      ∃ turns, (x.run turns).service = deeds.foldl Service.perform x.service := by
    induction deeds with
    | nil => exact fun x _ => ⟨[], rfl⟩
    | cons d deeds ih =>
      intro x h
      obtain ⟨turns, hservice, hpending⟩ := exists_run_perform h d
      obtain ⟨later, hlater⟩ := ih _ hpending
      refine ⟨turns ++ later, ?_⟩
      rw [run_append, hlater, hservice]
      rfl
  exact hany (quiet s) rfl

end Traffic

end UiSurface
