import UiSurface.Proofs.Course

/-!
# Stopping — what a client still does when it was stopped

A client may be stopped at every wait.  It then closes the link that it holds, makes no further attempt,
and is at its end as soon as the wait is over.  One wait is different: where it is stopped while it
connects there is no link yet to close, and if the connection comes about all the same, the client
registers over it and lets go of it without closing it.

Main lemmas: `Course.resume_of_stopping` (a client that was stopped is at its end after the wait),
`stop_ends_the_run_unless_connecting`.
-/

namespace UiSurface

/-- What went out over a link, and whether the client has closed it. -/
def Link.trace (l : Link) : List String × Bool := (l.sent, l.closed)

namespace Client

/-- The links that a client has had; the one that it holds is the last. -/
def everHeld (c : Client) : List Link := c.links ++ c.link.toList

/-- A client that has let go of its link and has done nothing else that shows. -/
structure LeftAs (d e : Client) : Prop where
  waits : e.waits = d.waits
  link : e.link = none
  traces : e.links.map Link.trace = d.everHeld.map Link.trace

theorem leftAs_self {d : Client} (h : d.link = none) : d.LeftAs d :=
  ⟨rfl, h, by simp [everHeld, h]⟩

theorem leftAs_hangUp (d : Client) : d.LeftAs d.hangUp := ⟨rfl, rfl, rfl⟩

theorem leftAs_setIncoming (d : Client) (texts : List String) :
    d.LeftAs (d.setIncoming texts).hangUp := by
  refine ⟨rfl, rfl, ?_⟩
  cases hlink : d.link <;> simp [hangUp, setIncoming, everHeld, Link.trace, hlink]

/-- A text that is still taken does not show. -/
theorem LeftAs.of_take {c d e : Client} {text : String} (htake : c.take text = .ok d)
    (h : d.LeftAs e) : c.LeftAs e := by
  obtain ⟨store, registered, reports, rfl⟩ := take_eq htake
  exact ⟨h.waits, h.link, h.traces⟩

/-- A client that was stopped while it connected, after it has sent its registration. -/
theorem stop_enrol_pass (d : Client) (stops : Moment → Bool) (link : Link) :
    ((d.stop.enrol link).pass stops (.sending (d.waits.sends + 1))).stopping = true ∧
    ((d.stop.enrol link).pass stops (.sending (d.waits.sends + 1))).waits =
      { d.waits with sends := d.waits.sends + 1 } ∧
    ((d.stop.enrol link).pass stops (.sending (d.waits.sends + 1))).everHeld.map Link.trace =
      d.links.map Link.trace ++
        [(if link.accepts then link.sent ++ [Frame.register d.platform d.deviceId] else link.sent,
          link.closed || stops (.sending (d.waits.sends + 1)))] := by
  unfold pass
  cases hstop : stops (.sending (d.waits.sends + 1)) <;> cases haccepts : link.accepts <;>
    simp [enrol, sendRegistration, pass, never, stop, everHeld, Link.trace, haccepts]

end Client

namespace Course

variable {stops : Moment → Bool} {c d : Client} {rest : List Attempt}

theorem retry_of_stopping (h : d.stopping = true) : retry d rest = ⟨d, .ended none, rest⟩ := by
  simp [retry, h]

theorem listen_of_stopping (h : d.stopping = true) (texts : List String) :
    listen d rest texts = ⟨(d.setIncoming texts).hangUp, .ended none, rest⟩ := by
  have hretry : ∀ texts, retry (d.setIncoming texts).hangUp rest =
      ⟨(d.setIncoming texts).hangUp, .ended none, rest⟩ := fun texts => retry_of_stopping h
  cases texts <;> simp [listen, h, hretry]

/-- A client that was stopped is at its end after the wait, unless a connection has just come about. -/
theorem resume_of_stopping {spot : Spot} (h : d.stopping = true)
    (hspot : ∀ link, spot ≠ .connecting (.connected link)) (hloose : (⟨d, spot, rest⟩ : Course).Loose) :
    ∃ e fault, resume ⟨d, spot, rest⟩ = ⟨e, .ended fault, rest⟩ ∧ d.LeftAs e := by
  -- a client that stops lets go of its connection where it notices, except before it has one
  cases spot with
  | connecting attempt =>
    cases attempt with
    | refused => exact ⟨d, none, retry_of_stopping h, d.leftAs_self (hloose rfl).link⟩
    | connected link => exact absurd rfl (hspot link)
  | sending link =>
    simp only [resume]
    split
    · exact ⟨_, none, listen_of_stopping h _, d.leftAs_setIncoming _⟩
    · exact ⟨_, none, retry_of_stopping h, d.leftAs_hangUp⟩
  | receiving text later =>
    simp only [resume]
    cases htake : d.take text with
    | ok e =>
      have hstopping : e.stopping = true := by
        obtain ⟨_, _, _, rfl⟩ := Client.take_eq htake
        exact h
      exact ⟨_, none, listen_of_stopping hstopping later, (e.leftAs_setIncoming later).of_take htake⟩
    | error fault => exact ⟨_, _, rfl, d.leftAs_setIncoming later⟩
  | losing => exact ⟨_, none, retry_of_stopping h, d.leftAs_setIncoming []⟩
  | sleeping => exact ⟨d, none, by simp [resume, tryNext, h], d.leftAs_self (hloose rfl).link⟩
  | ended fault => exact ⟨d, fault, rfl, d.leftAs_self (hloose rfl).link⟩

/-- A client that is stopped before it has registered leaves the link that it has. -/
theorem resume_of_stopping_sending (link : Link) (rest : List Attempt) (h : d.stopping = true) :
    ∃ e fault, resume ⟨d, .sending link, rest⟩ = ⟨e, .ended fault, rest⟩ ∧ d.LeftAs e :=
  resume_of_stopping h (fun _ => nofun) nofun

/-- Where a step brings a run to its end, the run ends so. -/
theorem run_of_step_ended {attempts : List Attempt} {x : Course} {e : Client} {fault : Option Client.Fault}
    (hx : Reaches stops (tryNext c attempts) x) (hstep : x.step stops = ⟨e, .ended fault, rest⟩) :
    c.run stops attempts = (e, rest, fault) := by
  have hend := ((reaches_run c attempts).ends hx).ends (.of_step (.refl _))
  rw [hstep] at hend
  have h := hend.eq_of_ended
  simp only [Course.mk.injEq, Spot.ended.injEq] at h
  obtain ⟨hclient, hfault, hrest⟩ := h
  rw [← hclient, ← hfault, ← hrest]

end Course

/-- A client is stopped at some wait of a run.  It makes no attempt any more, and holds no link at the
end.  If no connection comes about at that wait, it sends no registration any more, and the link that it
held is closed: its links have nothing more on them than they had then.  If one does, the client sends
its registration once more, over the new link, and does not close it unless it is stopped once more
while it sends. -/
theorem stop_ends_the_run_unless_connecting (stops : Moment → Bool) {c : Client} (hc : c.Apart)
    (attempts : List Attempt) (n : Nat) {x : Course} (hx : c.course stops attempts n = x)
    {m : Moment} (hm : x.moment? = some m) (hstop : stops m = true) :
    (c.run stops attempts).2.1 = x.rest ∧
    (c.run stops attempts).1.waits.connects = x.client.waits.connects ∧
    (c.run stops attempts).1.link = none ∧
    ((∀ link, x.spot ≠ .connecting (.connected link)) →
      (c.run stops attempts).1.waits.sends = x.client.waits.sends ∧
      (c.run stops attempts).1.links.map Link.trace = x.client.stop.everHeld.map Link.trace) ∧
    ∀ link, x.spot = .connecting (.connected link) →
      (c.run stops attempts).1.waits.sends = x.client.waits.sends + 1 ∧
      (c.run stops attempts).1.links.map Link.trace = x.client.links.map Link.trace ++
        [(if link.accepts then link.sent ++ [Frame.register x.client.platform x.client.deviceId]
            else link.sent,
          link.closed || stops (.sending (x.client.waits.sends + 1)))] := by
  obtain ⟨d, spot, rest⟩ := x
  have hreach : Course.Reaches stops (.tryNext c attempts) ⟨d, spot, rest⟩ :=
    hx ▸ c.reaches_course stops attempts n
  have hstep : Course.step stops ⟨d, spot, rest⟩ = .resume ⟨d.stop, spot, rest⟩ := by
    rw [Course.step_of_moment m hm, Client.pass, if_pos hstop]
  by_cases hspot : ∀ link, spot ≠ .connecting (.connected link)
  · have hloose : (⟨d.stop, spot, rest⟩ : Course).Loose := fun hapart =>
      (hreach.loose hc hapart).stop
    obtain ⟨e, fault, hresume, hleft⟩ := Course.resume_of_stopping rfl hspot hloose
    rw [Course.run_of_step_ended hreach (hstep.trans hresume)]
    exact ⟨rfl, congrArg Waits.connects hleft.waits, hleft.link,
      fun _ => ⟨congrArg Waits.sends hleft.waits, hleft.traces⟩,
      fun link hconnected => absurd hconnected (hspot link)⟩
  · -- the connection comes about: the client registers, and is at its end after one wait more
    obtain ⟨link, rfl⟩ : ∃ link, spot = .connecting (.connected link) := by simpa using hspot
    have hsending : Course.Reaches stops (.tryNext c attempts) ⟨d.stop.enrol link, .sending link, rest⟩ :=
      hreach.trans (.of_step (hstep ▸ .refl _))
    have hwait : Course.step stops ⟨d.stop.enrol link, .sending link, rest⟩ = .resume
        ⟨(d.stop.enrol link).pass stops (.sending (d.waits.sends + 1)), .sending link, rest⟩ :=
      Course.step_of_moment _ rfl
    obtain ⟨hstopping, hwaits, htraces⟩ := d.stop_enrol_pass stops link
    obtain ⟨e, fault, hresume, hleft⟩ := Course.resume_of_stopping_sending link rest hstopping
    rw [Course.run_of_step_ended hsending (hwait.trans hresume)]
    refine ⟨rfl, ?_, hleft.link, fun hnot => absurd rfl (hnot link), fun link' hlink => ?_⟩
    · rw [hleft.waits, hwaits]
    · cases hlink
      exact ⟨by rw [hleft.waits, hwaits], hleft.traces.trans htraces⟩

/-- A client that is stopped while it sleeps after two refusals ends there, with the third attempt not
made.  One that is stopped while it waits for its first text takes the text, and its link is closed. -/
theorem stopped_asleep_and_stopped_listening :
    let c := Client.new "ios" "phone-1" 10 (.int 30) (.empty false)
    let frame := Frame.register "ios" "phone-1"
    let link : Link := ⟨true, ["[]"], [], false⟩
    (c.run (· = .sleeping 2) [.refused, .refused, .connected link]).2.1 = [.connected link] ∧
      (c.run (· = .sleeping 2) [.refused, .refused, .connected link]).1.waits.sends = 0 ∧
      (c.run (· = .receiving 1) [.connected link, .refused]).2.1 = [.refused] ∧
      (c.run (· = .receiving 1) [.connected link, .refused]).1.links.map Link.trace = [([frame], true)] := by
  intro c frame link
  have hc : c.Apart := ⟨rfl, rfl⟩
  have hasleep : (c.course (· = .sleeping 2) [.refused, .refused, .connected link] 3).spot = .sleeping ∧
      (c.course (· = .sleeping 2) [.refused, .refused, .connected link] 3).moment? =
        some (.sleeping 2) := by decide +kernel
  have hlistens : (c.course (· = .receiving 1) [.connected link, .refused] 2).spot =
        .receiving "[]" [] ∧
      (c.course (· = .receiving 1) [.connected link, .refused] 2).moment? = some (.receiving 1) := by
    decide +kernel
  obtain ⟨hrest, -, -, hends, -⟩ :=
    stop_ends_the_run_unless_connecting (· = .sleeping 2) hc _ 3 rfl hasleep.2 rfl
  obtain ⟨hrest', -, -, hends', -⟩ :=
    stop_ends_the_run_unless_connecting (· = .receiving 1) hc _ 2 rfl hlistens.2 rfl
  have hnot := hends fun link => by
    rw [hasleep.1]
    exact nofun
  have hnot' := hends' fun link => by
    rw [hlistens.1]
    exact nofun
  refine ⟨hrest.trans ?_, hnot.1.trans ?_, hrest'.trans ?_, hnot'.2.trans ?_⟩
  all_goals decide +kernel

/-- A client is stopped while it connects, and the connection comes about.  It registers all the same, and
its link is never closed. -/
theorem registers_after_stop :
    let c := Client.new "ios" "phone-1" 10 (.int 30) (.empty false)
    let link : Link := ⟨true, [], [], false⟩
    let stops : Moment → Bool := (· = .connecting 1)
    let last := (c.run stops [.connected link]).1
    ((c.course stops [.connected link] 0).moment?.map stops = some true ∧
      (c.course stops [.connected link] 0).client.waits.sends = 0) ∧
      last.waits.sends = 1 ∧ last.links.map Link.trace = [([Frame.register "ios" "phone-1"], false)] := by
  decide +kernel

end UiSurface
