import UiSurface.Device.Client
import Mathlib.Logic.Function.Iterate

/-!
# The course of a run — from one wait to the next

A client that runs waits for a connection, for its registration to go out, for texts, and between two
attempts.  Only while it waits may anything else happen, and all that can happen is that somebody stops
it.  A `Course` is a run at one of its waits, or at its end.  A step lets the client be stopped there, if
somebody does that, and goes on to the next wait.

A run is its course from the beginning to the end.  So what is to hold at every wait, or at the end, is
shown of one step.

Main lemmas: `Course.reaches_run` (a course ends as the run does), `Course.Reaches.ends` (from every wait
it gets to its end), `Course.Reaches.induction` (what one step keeps holds wherever a run gets).
-/

namespace UiSurface

/-- Where a run is. -/
inductive Spot where
  /-- it waits for what comes of an attempt -/
  | connecting (attempt : Attempt)
  /-- it waits for its registration to go out over a link -/
  | sending (link : Link)
  /-- it waits for a text that arrives, with these behind it -/
  | receiving (text : String) (later : List String)
  /-- it waits for a text, and the link is lost -/
  | losing
  /-- it waits before it tries again -/
  | sleeping
  /-- it is at its end -/
  | ended (fault : Option Client.Fault)
deriving DecidableEq

/-- Whether a client has no connection where it is. -/
def Spot.isApart : Spot → Bool
  | .connecting _ | .sleeping | .ended _ => true
  | .sending _ | .receiving .. | .losing => false

/-- The texts that arrive over a link; there are none if the registration does not go out. -/
def Link.texts (l : Link) : List String := if l.accepts then l.incoming else []

/-- The texts that arrive after an attempt. -/
def Attempt.texts : Attempt → List String
  | .refused => []
  | .connected link => link.texts

/-- Whether a text can neither be read nor be passed over. -/
def isIllegible (text : String) : Bool :=
  match Json.ofText text with
  | .error (.digits _) => true
  | .ok _ | .error (.malformed ..) => false

/-- Every text that arrives can be read or passed over. -/
def Legible (attempts : List Attempt) : Prop :=
  ∀ text ∈ attempts.flatMap Attempt.texts, isIllegible text = false

/-- A text that arrives is no integer of too many digits. -/
theorem Legible.ofText_ne {attempts : List Attempt} (h : Legible attempts) {text : String}
    (harrives : text ∈ attempts.flatMap Attempt.texts) (digits : TooManyDigits) :
    Json.ofText text ≠ .error (.digits digits) := by
  intro hdigits
  have := h text harrives
  simp [isIllegible, hdigits] at this

/-- The texts that are still to arrive on the connection. -/
def Spot.texts : Spot → List String
  | .connecting attempt => attempt.texts
  | .sending link => link.texts
  | .receiving text later => text :: later
  | .losing | .sleeping | .ended _ => []

/-- A run at a wait or at its end. -/
structure Course where
  client : Client
  spot : Spot
  /-- the attempts that are still to come -/
  rest : List Attempt

namespace Client

/-- Nobody stops the client. -/
def never : Moment → Bool := fun _ => false

/-- The client sets out to connect. -/
def dial (c : Client) : Client :=
  { c with waits := { c.waits with connects := c.waits.connects + 1 } }

/-- The client has a link, and sends its registration. -/
def enrol (c : Client) (link : Link) : Client :=
  ({ c with failures := 0, link := some link } : Client).sendRegistration never

/-- The client counts a failure. -/
def fail (c : Client) : Client := { c with failures := c.failures + 1 }

def giveUp (c : Client) : Client := { c with gaveUp := true }

/-- The client goes to sleep for some seconds. -/
def fallAsleep (c : Client) (seconds : Binary64) : Client :=
  { c with
    delays := c.delays ++ [seconds]
    waits := { c.waits with sleeps := c.waits.sleeps + 1 } }

/-- A client that holds no link, and is not registered. -/
structure Apart (c : Client) : Prop where
  link : c.link = none
  registered : c.registered = false

/-- A client that has let go of its link holds none. -/
theorem apart_hangUp (c : Client) : c.hangUp.Apart := ⟨rfl, rfl⟩

theorem Apart.stop {c : Client} (h : c.Apart) : c.stop.Apart :=
  ⟨by simp [Client.stop, h.link], h.registered⟩

/-- To take a text changes the store, the registration and the reports only. -/
theorem take_eq {c d : Client} {text : String} (h : c.take text = .ok d) : ∃ store registered reports,
    d = { c with store := store, registered := registered, reports := reports } := by
  -- whatever the frame, only the store and what was heard change
  unfold take at h
  split at h
  · obtain rfl := Except.ok.inj h
    unfold handle
    split
    · exact ⟨_, _, _, rfl⟩
    · exact ⟨_, _, _, rfl⟩
    · exact ⟨_, _, _, rfl⟩
  · obtain rfl := Except.ok.inj h
    exact ⟨_, _, _, rfl⟩
  · obtain rfl := Except.ok.inj h
    exact ⟨_, _, _, rfl⟩
  · cases h

/-- A text breaks the run off if it cannot be read. -/
theorem ofText_of_take_error {c : Client} {text : String} {fault : TooManyDigits}
    (h : c.take text = .error fault) : Json.ofText text = .error (.digits fault) := by
  unfold take at h
  split at h
  · cases h
  · cases h
  · cases h
  · cases h
    assumption

/-- A client that was stopped has backed off. -/
theorem backOff_of_stopping (stops : Moment → Bool) {c : Client} (h : c.stopping = true) :
    c.backOff stops = (c, .finished) := by simp [backOff, h]

/-- To back off is to end, to give up, to find no wait, or to sleep. -/
theorem backOff_eq (stops : Moment → Bool) (c : Client) : c.backOff stops =
    if c.stopping then (c, .finished)
    else if c.maxAttempts ≤ c.fail.failures then (c.fail.giveUp, .finished)
    else match Backoff.delay (.int c.fail.failures) c.maxDelay with
      | .error fault => (c.fail, .failed (.delay fault))
      | .ok seconds =>
        let d := pass stops (.sleeping (c.waits.sleeps + 1)) (c.fail.fallAsleep seconds)
        (d, if d.stopping then .finished else .again) := rfl

/-- A client that tries again after a refusal has fewer turns left. -/
theorem turnsLeft_lt_of_again {stops : Moment → Bool} {c d : Client}
    (h : c.turn stops .refused = (d, .again)) : d.turnsLeft < c.turnsLeft := by
  have pass_turnsLeft (m : Moment) (c : Client) : (c.pass stops m).turnsLeft = c.turnsLeft := by
    unfold pass
    split <;> rfl
  have hbackOff : (c.dial.pass stops (.connecting (c.waits.connects + 1))).backOff stops = (d, .again) := h
  have hdial := pass_turnsLeft (.connecting (c.waits.connects + 1)) c.dial
  -- how the client was dialled does not matter from here, only how many turns it has left
  generalize c.dial.pass stops (.connecting (c.waits.connects + 1)) = e at hbackOff hdial
  rw [backOff_eq] at hbackOff
  split at hbackOff
  · cases hbackOff
  · split at hbackOff
    · cases hbackOff
    · rename_i hfew
      split at hbackOff
      · cases hbackOff
      · rename_i seconds _
        obtain ⟨rfl, -⟩ := Prod.mk.inj hbackOff
        rw [pass_turnsLeft]
        simp only [turnsLeft, fallAsleep, fail, dial] at *
        omega

end Client

namespace Course

open Client (never)

/-! ## Steps -/

/-- The moment that a run waits at. -/
def moment? (x : Course) : Option Moment :=
  match x.spot with
  | .connecting _ => some (.connecting x.client.waits.connects)
  | .sending _ => some (.sending x.client.waits.sends)
  | .receiving .. => some (.receiving x.client.waits.receives)
  | .losing => some (.losing x.client.waits.losses)
  | .sleeping => some (.sleeping x.client.waits.sleeps)
  | .ended _ => none

/-- Whether somebody stops the client while it waits here. -/
def isStopped (stops : Moment → Bool) (x : Course) : Bool := x.moment?.any stops

/-- Lets the client be stopped while it waits. -/
def interrupt (stops : Moment → Bool) (x : Course) : Course :=
  if x.isStopped stops then { x with client := x.client.stop } else x

/-- The run turns to the next attempt, unless the client was stopped.  Where there is none left,
connecting fails. -/
def tryNext (c : Client) (rest : List Attempt) : Course :=
  if c.stopping then ⟨c, .ended none, rest⟩
  else ⟨c.dial, .connecting (rest.head?.getD .refused), rest.tail⟩

/-- The run has had a failure: the client sleeps or gives up, unless it was stopped. -/
def retry (c : Client) (rest : List Attempt) : Course :=
  if c.stopping then ⟨c, .ended none, rest⟩
  else if c.maxAttempts ≤ c.fail.failures then ⟨c.fail.giveUp, .ended none, rest⟩
  else match Backoff.delay (.int c.fail.failures) c.maxDelay with
    | .error fault => ⟨c.fail, .ended (some (.delay fault)), rest⟩
    | .ok seconds => ⟨c.fail.fallAsleep seconds, .sleeping, rest⟩

/-- The run waits for the texts of a link, unless the client was stopped. -/
def listen (c : Client) (rest : List Attempt) : List String → Course
  | [] => if c.stopping then retry (c.setIncoming []).hangUp rest else ⟨c.awaitLoss never, .losing, rest⟩
  | text :: later =>
    if c.stopping then retry (c.setIncoming (text :: later)).hangUp rest
    else ⟨c.await never, .receiving text later, rest⟩

/-- What the client does when its wait is over, up to the next one. -/
def resume (x : Course) : Course :=
  match x.spot with
  | .connecting .refused => retry x.client x.rest
  | .connecting (.connected link) => ⟨x.client.enrol link, .sending link, x.rest⟩
  | .sending link =>
    if link.accepts then listen x.client x.rest link.incoming else retry x.client.hangUp x.rest
  | .receiving text later => match x.client.take text with
    | .ok c => listen c x.rest later
    | .error fault => ⟨(x.client.setIncoming later).hangUp, .ended (some (.digits fault)), x.rest⟩
  | .losing => retry (x.client.setIncoming []).hangUp x.rest
  | .sleeping => tryNext x.client x.rest
  | .ended _ => x

/-- The run goes on to its next wait. -/
def step (stops : Moment → Bool) (x : Course) : Course := (x.interrupt stops).resume

/-- The run gets from one wait to another. -/
def Reaches (stops : Moment → Bool) (x y : Course) : Prop := ∃ n, (step stops)^[n] x = y

end Course

/-- A run after a number of steps. -/
def Client.course (stops : Moment → Bool) (c : Client) (attempts : List Attempt) (n : Nat) : Course :=
  (Course.step stops)^[n] (Course.tryNext c attempts)

namespace Course

variable {stops : Moment → Bool}

/-! ## One wait after the other -/

theorem Reaches.refl (x : Course) : Reaches stops x x := ⟨0, rfl⟩

theorem Reaches.trans {x y z : Course} (hxy : Reaches stops x y) (hyz : Reaches stops y z) :
    Reaches stops x z := by
  obtain ⟨n, rfl⟩ := hxy
  obtain ⟨m, rfl⟩ := hyz
  exact ⟨m + n, Function.iterate_add_apply _ m n x⟩

theorem Reaches.of_step {x y : Course} (h : Reaches stops (x.step stops) y) : Reaches stops x y := by
  obtain ⟨n, rfl⟩ := h
  exact ⟨n + 1, Function.iterate_succ_apply _ n x⟩

/-- A run goes on with a client that may have been stopped at the moment. -/
theorem step_of_moment {c : Client} {spot : Spot} {rest : List Attempt} (m : Moment)
    (hm : (⟨c, spot, rest⟩ : Course).moment? = some m) :
    step stops ⟨c, spot, rest⟩ = resume ⟨c.pass stops m, spot, rest⟩ := by
  simp only [step, interrupt, isStopped, hm, Option.any_some, Client.pass]
  split <;> rfl

/-- A wait of the run is over when its moment has passed. -/
theorem Reaches.of_moment {c : Client} {spot : Spot} {rest : List Attempt} {y : Course} (m : Moment)
    (hm : (⟨c, spot, rest⟩ : Course).moment? = some m)
    (h : Reaches stops (resume ⟨c.pass stops m, spot, rest⟩) y) : Reaches stops ⟨c, spot, rest⟩ y :=
  .of_step (step_of_moment m hm ▸ h)

/-! ## The course of a run -/

/-- Where a run is when a turn has brought it to this. -/
def ofNext (rest : List Attempt) : Client × Client.Next → Course
  | (c, .again) => tryNext c rest
  | (c, .finished) => ⟨c, .ended none, rest⟩
  | (c, .failed fault) => ⟨c, .ended (some fault), rest⟩

/-- After a turn that does not end the run, the client tries again unless it was stopped. -/
theorem ofNext_awake (c : Client) (rest : List Attempt) :
    ofNext rest (c, if c.stopping then .finished else .again) = tryNext c rest := by
  cases h : c.stopping <;> simp [ofNext, tryNext, h]

/-- The wait after a failure goes on as the client itself goes on when it backs off. -/
theorem reaches_retry (c : Client) (rest : List Attempt) :
    Reaches stops (retry c rest) (ofNext rest (c.backOff stops)) := by
  rw [Client.backOff_eq, retry]
  split
  · exact .refl _
  · split
    · exact .refl _
    · split
      · exact .refl _
      · refine .of_moment (.sleeping (c.waits.sleeps + 1)) rfl ?_
        rw [ofNext_awake]
        exact .refl _

/-- The texts of a link are taken one after the other, until the link is let go. -/
theorem reaches_listen (c : Client) (rest : List Attempt) (texts : List String) :
    Reaches stops (listen c rest texts) (match c.listen stops texts with
      | (d, none) => retry d.hangUp rest
      | (d, some fault) => ⟨d.hangUp, .ended (some fault), rest⟩) := by
  induction texts generalizing c with
  | nil =>
    cases hstopping : c.stopping with
    | true =>
      simp only [listen, Client.listen, hstopping, if_true]
      exact .refl _
    | false =>
      simp only [listen, Client.listen, hstopping, Bool.false_eq_true, if_false]
      exact .of_moment (.losing (c.waits.losses + 1)) rfl (.refl _)
  | cons text later ih =>
    cases hstopping : c.stopping with
    | true =>
      simp only [listen, Client.listen, hstopping, if_true]
      exact .refl _
    | false =>
      -- a wait that nobody disturbs, and then whoever stops the client at this moment
      have hawait : (c.await Client.never).pass stops (.receiving (c.waits.receives + 1)) =
          c.await stops := rfl
      simp only [listen, Client.listen, hstopping, Bool.false_eq_true, if_false]
      refine .of_moment (.receiving (c.waits.receives + 1)) rfl ?_
      simp only [resume, hawait]
      cases (c.await stops).take text with
      | ok d => exact ih d
      | error fault => exact .refl _

/-- The link of a connection is used until it is let go. -/
theorem reaches_serve (c : Client) (link : Link) (rest : List Attempt) :
    Reaches stops ⟨c.enrol link, .sending link, rest⟩ (match c.serve stops link with
      | (d, none) => retry d rest
      | (d, some fault) => ⟨d, .ended (some fault), rest⟩) := by
  refine .of_moment (.sending (c.waits.sends + 1)) rfl ?_
  have hsend : (c.enrol link).pass stops (.sending (c.waits.sends + 1)) =
      ({ c with failures := 0, link := some link } : Client).sendRegistration stops := rfl
  simp only [resume, hsend, Client.serve]
  split
  · refine (reaches_listen _ rest link.incoming).trans ?_
    rcases Client.listen stops _ link.incoming with ⟨d, _ | fault⟩
    · exact .refl _
    · exact .refl _
  · exact .refl _

/-- A turn leads to where it says that the run goes on. -/
theorem reaches_turn (c : Client) (attempt : Attempt) (rest : List Attempt) :
    Reaches stops ⟨c.dial, .connecting attempt, rest⟩ (ofNext rest (c.turn stops attempt)) := by
  refine .of_moment (.connecting (c.waits.connects + 1)) rfl ?_
  cases attempt with
  | refused => exact reaches_retry _ rest
  | connected link =>
    refine (reaches_serve _ link rest).trans ?_
    -- dialling does nothing but count the connection
    have hdial : c.dial.pass stops (.connecting (c.waits.connects + 1)) =
        ({ c with waits := { c.waits with connects := c.waits.connects + 1 } } : Client).pass stops
          (.connecting (c.waits.connects + 1)) := rfl
    rw [hdial]
    simp only [Client.turn]
    rcases Client.serve stops _ link with ⟨d, _ | fault⟩
    · have hbackOff : (if d.stopping then (d, .finished) else d.backOff stops) = d.backOff stops := by
        cases hstopping : d.stopping with
        | true => exact (d.backOff_of_stopping stops hstopping).symm
        | false => rfl
      simp only [hbackOff]
      exact reaches_retry d rest
    · exact .refl _

/-- With enough turns, the course is that of a client whose every attempt is refused. -/
theorem reaches_runRefused (turns : Nat) {c : Client} (h : c.turnsLeft ≤ turns) :
    Reaches stops (tryNext c [])
      ⟨(c.runRefused stops turns).1, .ended (c.runRefused stops turns).2, []⟩ := by
  induction turns generalizing c with
  | zero => simp [Client.turnsLeft] at h
  | succ turns ih =>
    cases hstopping : c.stopping with
    | true =>
      simp only [tryNext, Client.runRefused, hstopping, if_true]
      exact .refl _
    | false =>
      simp only [tryNext, Client.runRefused, hstopping, Bool.false_eq_true, if_false]
      refine (reaches_turn c .refused []).trans ?_
      rcases hturn : c.turn stops .refused with ⟨d, _ | _ | fault⟩
      · -- a refused turn costs one of the turns that are left
        exact ih (Nat.lt_succ_iff.mp (Nat.lt_of_lt_of_le (Client.turnsLeft_lt_of_again hturn) h))
      · exact .refl _
      · exact .refl _

/-- A run reaches its end, and leaves over the attempts that it has not come to. -/
theorem reaches_run (c : Client) (attempts : List Attempt) :
    Reaches stops (tryNext c attempts) ⟨(c.run stops attempts).1,
      .ended (c.run stops attempts).2.2, (c.run stops attempts).2.1⟩ := by
  induction attempts generalizing c with
  | nil => exact reaches_runRefused c.turnsLeft (Nat.le_refl _)
  | cons attempt rest ih =>
    cases hstopping : c.stopping with
    | true =>
      simp only [tryNext, Client.run, hstopping, if_true]
      exact .refl _
    | false =>
      simp only [tryNext, Client.run, hstopping, Bool.false_eq_true, if_false]
      refine (reaches_turn c attempt rest).trans ?_
      rcases c.turn stops attempt with ⟨d, _ | _ | fault⟩
      · exact ih d
      · exact .refl _
      · exact .refl _

/-! ## The end of a course -/

/-- A run that has ended stays where it is. -/
theorem step_ended (c : Client) (fault : Option Client.Fault) (rest : List Attempt) :
    step stops ⟨c, .ended fault, rest⟩ = ⟨c, .ended fault, rest⟩ := by
  simp [step, interrupt, isStopped, moment?, resume]

/-- Wherever a run is, it gets to its end from there. -/
theorem Reaches.ends {x y : Course} {c : Client} {fault : Option Client.Fault} {rest : List Attempt}
    (hend : Reaches stops x ⟨c, .ended fault, rest⟩) (hy : Reaches stops x y) :
    Reaches stops y ⟨c, .ended fault, rest⟩ := by
  obtain ⟨n, hn⟩ := hend
  obtain ⟨m, rfl⟩ := hy
  have hstay : (step stops)^[m] ⟨c, .ended fault, rest⟩ = ⟨c, .ended fault, rest⟩ :=
    Function.iterate_fixed (step_ended c fault rest) m
  refine ⟨n, ?_⟩
  rw [← Function.iterate_add_apply, Nat.add_comm, Function.iterate_add_apply, hn, hstay]

/-- A run that is over gets nowhere. -/
theorem Reaches.eq_of_ended {c : Client} {fault : Option Client.Fault} {rest : List Attempt} {y : Course}
    (h : Reaches stops ⟨c, .ended fault, rest⟩ y) : y = ⟨c, .ended fault, rest⟩ := by
  obtain ⟨n, rfl⟩ := h
  exact Function.iterate_fixed (step_ended c fault rest) n

/-- What every step keeps holds wherever a run gets. -/
theorem Reaches.induction {P : Course → Prop} {x y : Course} (h : Reaches stops x y) (hx : P x)
    (hstep : ∀ z, P z → P (z.step stops)) : P y := by
  obtain ⟨n, rfl⟩ := h
  induction n with
  | zero => exact hx
  | succ n ih =>
    rw [Function.iterate_succ_apply']
    exact hstep _ ih

/-- Where nobody stops the client, it goes on when its wait is over. -/
theorem step_never (x : Course) : step Client.never x = x.resume := by
  obtain ⟨c, spot, rest⟩ := x
  cases spot <;> rfl

/-! ## What is still to come -/

/-- The texts that are still to arrive. -/
def toCome (x : Course) : List String := x.spot.texts ++ x.rest.flatMap Attempt.texts

/-- Setting out to connect takes no text away. -/
theorem toCome_tryNext (c : Client) (rest : List Attempt) :
    (tryNext c rest).toCome = rest.flatMap Attempt.texts := by
  unfold tryNext
  split
  · rfl
  · cases rest <;> rfl

theorem toCome_retry (c : Client) (rest : List Attempt) :
    (retry c rest).toCome = rest.flatMap Attempt.texts := by
  unfold retry
  split
  · rfl
  · split
    · rfl
    · split <;> rfl

/-- A client that was not stopped waits for every text of the link. -/
theorem toCome_listen {c : Client} (h : c.stopping = false) (rest : List Attempt) (texts : List String) :
    (listen c rest texts).toCome = texts ++ rest.flatMap Attempt.texts := by
  cases texts <;> simp [listen, h, toCome, Spot.texts]

/-! ## Between two connections -/

/-- A client that has no connection holds no link, and is not registered. -/
def Loose (x : Course) : Prop := x.spot.isApart = true → x.client.Apart

theorem loose_tryNext {c : Client} (h : c.Apart) (rest : List Attempt) : (tryNext c rest).Loose := by
  intro _
  unfold tryNext
  split
  · exact h
  · exact ⟨h.link, h.registered⟩

theorem loose_retry {c : Client} (h : c.Apart) (rest : List Attempt) : (retry c rest).Loose := by
  intro _
  unfold retry
  split
  · exact h
  · split
    · exact ⟨h.link, h.registered⟩
    · split
      · exact ⟨h.link, h.registered⟩
      · exact ⟨h.link, h.registered⟩

theorem loose_listen (c : Client) (rest : List Attempt) (texts : List String) :
    (listen c rest texts).Loose := by
  cases texts with
  | nil =>
    simp only [listen]
    split
    · exact loose_retry (Client.apart_hangUp _) rest
    · exact nofun
  | cons text later =>
    simp only [listen]
    split
    · exact loose_retry (Client.apart_hangUp _) rest
    · exact nofun

/-- A client that holds no link where it has none holds to that when its wait is over. -/
theorem Loose.resume {x : Course} (h : x.Loose) : x.resume.Loose := by
  obtain ⟨c, spot, rest⟩ := x
  -- a connection is held only while it is sent to or received from
  cases spot with
  | connecting attempt =>
    cases attempt with
    | refused => exact loose_retry (h rfl) rest
    | connected link => exact nofun
  | sending link =>
    simp only [Course.resume]
    split
    · exact loose_listen c rest link.incoming
    · exact loose_retry c.apart_hangUp rest
  | receiving text later =>
    simp only [Course.resume]
    split
    · exact loose_listen _ rest later
    · exact fun _ => Client.apart_hangUp _
  | losing => exact loose_retry (Client.apart_hangUp _) rest
  | sleeping => exact loose_tryNext (h rfl) rest
  | ended fault => exact h

theorem Loose.step {x : Course} (h : x.Loose) : (x.step stops).Loose := by
  refine Loose.resume ?_
  unfold interrupt
  split
  · exact fun hspot => (h hspot).stop
  · exact h

theorem Reaches.loose {c : Client} (hc : c.Apart) {attempts : List Attempt} {x : Course}
    (h : Reaches stops (tryNext c attempts) x) : x.Loose :=
  h.induction (loose_tryNext hc attempts) fun _ hloose => hloose.step

end Course

/-- A run is wherever its course has brought it. -/
theorem Client.reaches_course (stops : Moment → Bool) (c : Client) (attempts : List Attempt) (n : Nat) :
    Course.Reaches stops (.tryNext c attempts) (c.course stops attempts n) := ⟨n, rfl⟩

end UiSurface
