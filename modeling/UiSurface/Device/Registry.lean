import UiSurface.Device.Frame

/-!
# The registry — which devices are connected, and over which socket

A device is registered under its id with the socket that it can be reached over.  An id that
registers again moves to the newer socket and keeps its place.  A device whose socket fails is
dropped.

Main lemmas: `get?_register` and `get?_unregister_of_ne` (only one id is touched),
`unregister_of_ne` (a socket does not take away what has moved to another).
-/

namespace UiSurface

/-- A connected device. -/
structure Device where
  platform : String
  /-- the name of the socket that it is reached over -/
  socket : String
deriving DecidableEq

/-! ## Sockets -/

/-- The sockets, as far as sending goes. -/
structure Wire where
  /-- the sockets that sending fails on -/
  broken : List String
  /-- every text sent so far, with its socket -/
  sent : List (String × String)
deriving DecidableEq

namespace Wire

/-- Sockets that all work and were not used yet. -/
def empty : Wire := ⟨[], []⟩

def works (w : Wire) (socket : String) : Bool := !w.broken.contains socket

/-- Sends a text, if the socket works. -/
def send (w : Wire) (socket text : String) : Wire :=
  if w.works socket then { w with sent := w.sent ++ [(socket, text)] } else w

def setBroken (w : Wire) (socket : String) (broken : Bool) : Wire :=
  let others := w.broken.filter (· != socket)
  { w with broken := if broken then socket :: others else others }

end Wire

/-! ## Registration -/

/-- The connected devices by id. -/
abbrev Registry := Record Device

namespace Registry

/-- Registers a device under an id. -/
def register (r : Registry) (id platform socket : String) : Registry :=
  Record.put r id ⟨platform, socket⟩

/-- Takes an id out.  If a socket is given, the id stays when it has moved to another one. -/
def unregister (r : Registry) (id : String) (socket : Option String) : Registry :=
  match Record.get? r id with
  | some device => if socket.all (· == device.socket) then Record.erase r id else r
  | none => r

/-- A device is found under the id that it was registered under, and nothing else changes. -/
theorem get?_register (r : Registry) (id other platform socket : String) :
    Record.get? (r.register id platform socket) other =
      if id = other then some ⟨platform, socket⟩ else Record.get? r other :=
  Record.get?_put r id other _

theorem get?_unregister_of_ne (r : Registry) {id other : String} (socket : Option String)
    (h : other ≠ id) : Record.get? (r.unregister id socket) other = Record.get? r other := by
  unfold unregister
  split
  · split
    · exact Record.get?_erase_of_ne r h
    · rfl
  · rfl

/-- A socket that lost its id to another one takes nothing out. -/
theorem unregister_of_ne (r : Registry) (id socket : String) (device : Device)
    (h : Record.get? r id = some device) (hs : socket ≠ device.socket) :
    r.unregister id (some socket) = r := by
  simp [unregister, h, hs]

/-! ## Pushing -/

/-- Sends a text to a device, and says whether it got it (`_send`); if not, the device is dropped. -/
def deliver (r : Registry) (w : Wire) (id : String) (device : Device) (text : String) :
    Registry × Wire × Bool :=
  if w.works device.socket then (r, w.send device.socket text, true)
  else (r.unregister id (some device.socket), w, false)

/-- Pushes a batch to one device, and says whether it got it. -/
def push (r : Registry) (w : Wire) (id : String) (batch : List Json) : Registry × Wire × Bool :=
  match Record.get? r id with
  | some device => r.deliver w id device (Frame.messages batch)
  | none => (r, w, false)

/-- Sends a text to devices one after the other, and counts those that got it. -/
def deliverAll (r : Registry) (w : Wire) (text : String) :
    List (String × Device) → Registry × Wire × Nat
  | [] => (r, w, 0)
  | (id, device) :: rest =>
    let (r, w, got) := r.deliver w id device text
    let (r, w, count) := deliverAll r w text rest
    (r, w, if got then count + 1 else count)

/-- Pushes a batch to every device there is, and counts those that got it (`push_all`). -/
def pushAll (r : Registry) (w : Wire) (batch : List Json) : Registry × Wire × Nat :=
  -- the devices are those of the beginning, whoever is dropped on the way
  r.deliverAll w (Frame.messages batch) r

end Registry

end UiSurface
