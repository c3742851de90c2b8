import UiSurface.Device.Backoff
import UiSurface.Device.Frame
import UiSurface.Store.Batch

/-!
# Clients — the device's side of the connection

A client connects, registers, and folds every batch that it receives into its store.  When
connecting fails or the link is lost it waits and tries again, until it has failed too often in a
row or is stopped.

What the world does is given as data: a list of attempts to connect, and the moments at which
somebody stops the client.  After the last attempt of the list, connecting fails.
-/

namespace UiSurface

/-! ## The world -/

/-- A link to the service. -/
structure Link where
  /-- whether sending works -/
  accepts : Bool
  /-- the texts that are still to arrive before the link is lost -/
  incoming : List String
  sent : List String
  /-- whether the client has closed it -/
  closed : Bool
deriving DecidableEq

/-- What comes of an attempt to connect. -/
inductive Attempt where
  | refused
  | connected (link : Link)
deriving DecidableEq

/-- A moment at which a client waits: its number counts the moments of its kind, from one. -/
inductive Moment where
  | connecting (number : Nat)
  | sending (number : Nat)
  /-- it waits for a text that arrives -/
  | receiving (number : Nat)
  /-- it waits for a text, and the link is lost -/
  | losing (number : Nat)
  | sleeping (number : Nat)
deriving DecidableEq

/-- How often a client has waited. -/
structure Waits where
  connects : Nat
  sends : Nat
  receives : Nat
  losses : Nat
  sleeps : Nat
deriving DecidableEq

/-! ## The client -/

/-- A client. -/
structure Client where
  platform : String
  deviceId : String
  /-- how many failures in a row make it give up -/
  maxAttempts : Int
  /-- the cap of the wait, in seconds -/
  maxDelay : Number
  store : Store
  registered : Bool
  gaveUp : Bool
  stopping : Bool
  /-- the failures since it was last connected -/
  failures : Nat
  /-- what each batch did, in order -/
  reports : List Store.LiveReport
  /-- every wait so far, in seconds -/
  delays : List Binary64
  /-- the link that it holds -/
  link : Option Link
  /-- the links that it has held -/
  links : List Link
  waits : Waits
deriving DecidableEq

namespace Client

/-- A client that has not run yet. -/
def new (platform deviceId : String) (maxAttempts : Int) (maxDelay : Number) (store : Store) :
    Client :=
  ⟨platform, deviceId, maxAttempts, maxDelay, store, false, false, false, 0, [], [], none, [],
    ⟨0, 0, 0, 0, 0⟩⟩

/-- Why a run broke off. -/
inductive Fault where
  | digits (fault : TooManyDigits)
  | delay (fault : Backoff.TooLarge)
deriving DecidableEq

/-- Stops a client: it closes the link that it holds. -/
def stop (c : Client) : Client :=
  { c with stopping := true, link := c.link.map (fun l => { l with closed := true }) }

/-- Lets a moment pass, at which the client may be stopped. -/
def pass (stops : Moment → Bool) (m : Moment) (c : Client) : Client :=
  if stops m then c.stop else c

/-! ## Frames -/

/-- Takes a frame (`handle_frame`).  Frames of other types are passed over. -/
def handle (c : Client) (frame : Record Json) : Client × Option Store.LiveReport :=
  match Json.field frame "type" with
  | .str "registered" => ({ c with registered := true }, none)
  | .str "a2ui_messages" =>
    let (store, report) := c.store.applyLive (Json.field frame "messages")
    ({ c with store := store, reports := c.reports ++ [report] }, some report)
  | _ => (c, none)

/-- Takes a text.  One that is no JSON object is passed over. -/
def take (c : Client) (text : String) : Except TooManyDigits Client :=
  match Json.ofText text with
  | .ok (.obj frame) => .ok (c.handle frame).1
  | .ok _ | .error (.malformed ..) => .ok c
  | .error (.digits fault) => .error fault

/-! ## One connection -/

def setIncoming (c : Client) (texts : List String) : Client :=
  { c with link := c.link.map (fun l => { l with incoming := texts }) }

/-- Waits for a text that arrives. -/
def await (stops : Moment → Bool) (c : Client) : Client :=
  let number := c.waits.receives + 1
  pass stops (.receiving number) { c with waits := { c.waits with receives := number } }

/-- Waits for a text until the link is lost. -/
def awaitLoss (stops : Moment → Bool) (c : Client) : Client :=
  let number := c.waits.losses + 1
  pass stops (.losing number) { c with waits := { c.waits with losses := number } }

/-- Takes the texts of a link until it is lost or the client is stopped (`_receive_loop`). -/
def listen (stops : Moment → Bool) (c : Client) : List String → Client × Option Fault
  -- the link is lost while the client waits for one text more
  | [] => ((if c.stopping then c else c.awaitLoss stops).setIncoming [], none)
  | text :: rest =>
    if c.stopping then (c.setIncoming (text :: rest), none)
    else match (c.await stops).take text with
      | .ok next => next.listen stops rest
      -- the text is off the link all the same
      | .error fault => ((c.await stops).setIncoming rest, some (.digits fault))

/-- Sends the registration over the link (`_register`). -/
def sendRegistration (stops : Moment → Bool) (c : Client) : Client :=
  let number := c.waits.sends + 1
  let frame := Frame.register c.platform c.deviceId
  pass stops (.sending number)
    { c with
      waits := { c.waits with sends := number }
      link := c.link.map (fun l => if l.accepts then { l with sent := l.sent ++ [frame] } else l) }

/-- Lets go of the link. -/
def hangUp (c : Client) : Client :=
  { c with registered := false, link := none, links := c.links ++ c.link.toList }

/-- Uses a link for as long as it lasts. -/
def serve (stops : Moment → Bool) (c : Client) (link : Link) : Client × Option Fault :=
  let c := ({ c with failures := 0, link := some link } : Client).sendRegistration stops
  -- a registration that cannot be sent means that the link is lost
  let (c, fault) := if link.accepts then c.listen stops link.incoming else (c, none)
  (c.hangUp, fault)

/-! ## The run -/

/-- How a run goes on. -/
inductive Next where
  | again
  | finished
  | failed (fault : Fault)
deriving DecidableEq

/-- Counts a failure and waits, or gives up (`_backoff`). -/
def backOff (stops : Moment → Bool) (c : Client) : Client × Next :=
  if c.stopping then (c, .finished)
  else
    let c := { c with failures := c.failures + 1 }
    -- there is no wait after the last failure
    if c.maxAttempts ≤ c.failures then ({ c with gaveUp := true }, .finished)
    else match Backoff.delay (.int c.failures) c.maxDelay with
      | .error fault => (c, .failed (.delay fault))
      | .ok seconds =>
        let number := c.waits.sleeps + 1
        let c := pass stops (.sleeping number)
          { c with delays := c.delays ++ [seconds], waits := { c.waits with sleeps := number } }
        (c, if c.stopping then .finished else .again)

/-- One turn: an attempt to connect, the connection if there is one, and the wait. -/
def turn (stops : Moment → Bool) (c : Client) (attempt : Attempt) : Client × Next :=
  let number := c.waits.connects + 1
  let c := pass stops (.connecting number)
    { c with waits := { c.waits with connects := number } }
  match attempt with
  | .refused => c.backOff stops
  -- a link that was lost is the first failure since it was there
  | .connected link => match c.serve stops link with
    | (c, some fault) => (c, .failed fault)
    | (c, none) => if c.stopping then (c, .finished) else c.backOff stops

/-- Runs on while every attempt is refused, for a number of turns at most. -/
def runRefused (stops : Moment → Bool) : Nat → Client → Client × Option Fault
  | 0, c => (c, none)
  | turns + 1, c =>
    if c.stopping then (c, none)
    else match c.turn stops .refused with
      | (c, .again) => runRefused stops turns c
      | (c, .finished) => (c, none)
      | (c, .failed fault) => (c, some fault)

/-- How many turns of refusals there can be: each is one more failure in a row. -/
def turnsLeft (c : Client) : Nat := (c.maxAttempts - c.failures).toNat + 1

/-- Runs a client.  The attempts that were not made are left over. -/
def run (stops : Moment → Bool) (c : Client) :
    List Attempt → Client × List Attempt × Option Fault
  | [] =>
    let (c, fault) := runRefused stops c.turnsLeft c
    (c, [], fault)
  | attempt :: rest =>
    if c.stopping then (c, attempt :: rest, none)
    else match c.turn stops attempt with
      | (c, .again) => c.run stops rest
      | (c, .finished) => (c, rest, none)
      | (c, .failed fault) => (c, rest, some fault)

end Client

end UiSurface
