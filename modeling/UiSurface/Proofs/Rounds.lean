import Mathlib.Data.List.Perm.Basic
import UiSurface.Proofs.Ownership
import UiSurface.Proofs.Verdicts

/-!
# Whom a push reaches

A push looks at the registry once, as it begins, and then comes to each of the devices that it is for, to
each once.  No socket has two entries, so nobody gets a batch twice.  Who did not get it is dropped, if
nobody else has taken the id meanwhile, and who got it is counted.  All this is so for a push that the
service makes at once, and for one on whose round others register, go, and push as well.

Main lemmas: `Registry.registry_deliverAll_self` and `Registry.count_deliverAll` (who is dropped, who
is counted), `Service.pushMessages_all` and `Service.pushMessages_one`, `Traffic.getElem?_rounds_step`
(what becomes of a push in a turn), `Traffic.Accounted.run` (every text is one of a push, or it
acknowledges), `Traffic.push_reaches_each_device_once`.
-/

namespace UiSurface

/-! ## Sending to many -/

@[simp] theorem Wire.works_send (w : Wire) (socket text other : String) :
    (w.send socket text).works other = w.works other := by
  unfold send
  split <;> rfl

/-- A text goes out just if the socket works. -/
theorem Wire.sent_send (w : Wire) (socket text : String) :
    (w.send socket text).sent = w.sent ++ if w.works socket then [(socket, text)] else [] := by
  unfold send
  split
  · rfl
  · exact (List.append_nil _).symm

namespace Registry

/-- A delivery is one text to the socket of the device. -/
theorem wire_deliver (r : Registry) (w : Wire) (id : String) (device : Device) (text : String) :
    (r.deliver w id device text).2.1 = w.send device.socket text := by
  unfold deliver Wire.send
  split <;> rfl

/-- A text that does not arrive takes out the entry that it was sent to, and nothing else. -/
theorem registry_deliver {r : Registry} (h : (Record.keys r).Nodup) (w : Wire) (id : String)
    (device : Device) (text : String) : (r.deliver w id device text).1 = r.filter fun e =>
      w.works device.socket || decide ¬ (e.1 = id ∧ e.2.socket = device.socket) := by
  unfold deliver
  cases w.works device.socket with
  | true => simp
  | false => simpa using unregister_eq_filter h id device.socket

/-- A push drops the devices whose sockets do not work, if they are registered as they were. -/
theorem registry_deliverAll {r : Registry} (h : (Record.keys r).Nodup) (w : Wire) (text : String)
    (devices : List (String × Device)) : (r.deliverAll w text devices).1 = r.filter fun e =>
      devices.all fun f => w.works f.2.socket || decide ¬ (e.1 = f.1 ∧ e.2.socket = f.2.socket) := by
  induction devices generalizing r w with
  | nil => simp [deliverAll]
  | cons f devices ih =>
    have hworks : (r.deliver w f.1 f.2 text).2.1.works = w.works := by
      funext socket
      rw [wire_deliver, Wire.works_send]
    have hrest := ih ((left_deliver r w f.1 f.2 text).nodup h) (r.deliver w f.1 f.2 text).2.1
    rw [hworks, registry_deliver h, List.filter_filter] at hrest
    have hfirst : (r.deliverAll w text (f :: devices)).1 = ((r.deliver w f.1 f.2 text).1.deliverAll
        (r.deliver w f.1 f.2 text).2.1 text devices).1 := rfl
    simp only [hfirst, registry_deliver h, hrest, List.all_cons, Bool.and_comm]

/-- If the text is for all, those stay whose sockets work. -/
theorem registry_deliverAll_self {r : Registry} (h : (Record.keys r).Nodup) (w : Wire)
    (text : String) : (r.deliverAll w text r).1 = r.filter fun e => w.works e.2.socket := by
  rw [registry_deliverAll h]
  refine List.filter_congr fun e he => ?_
  rw [Bool.eq_iff_iff]
  simp only [List.all_eq_true, Bool.or_eq_true, decide_eq_true_eq]
  constructor
  · intro hall
    exact (hall e he).resolve_right fun hne => hne ⟨rfl, rfl⟩
  · intro hworks f _
    by_cases hsocket : e.2.socket = f.2.socket
    · exact Or.inl (hsocket ▸ hworks)
    · exact Or.inr fun hboth => hsocket hboth.2

/-- Those are counted whose sockets work. -/
theorem count_deliverAll (r : Registry) (w : Wire) (text : String)
    (devices : List (String × Device)) : (r.deliverAll w text devices).2.2 =
      (devices.filter fun e => w.works e.2.socket).length := by
  induction devices generalizing r w with
  | nil => rfl
  | cons e devices ih =>
    cases hworks : w.works e.2.socket with
    | true => simp [deliverAll, deliver, hworks, ih]
    | false => simp [deliverAll, deliver, hworks, ih]

end Registry

/-! ## At once -/

namespace Service

/-- A batch that is not refused has no structural problem. -/
theorem sound_of_accepted {s : Service} {request : Body.Push}
    (h : (s.pushMessages request).2.status ≠ 422) :
    hasStructural (Validation.incremental (.arr request.messages)) = false :=
  Bool.eq_false_iff.mpr fun hbroken => h ((s.status_pushMessages_eq_iff request).mpr hbroken)

/-- What the service does with a batch for all. -/
theorem pushMessages_all {s : Service} (hnodup : (Record.keys s.registry).Nodup)
    {messages : List Json} (h : (s.pushMessages ⟨none, messages⟩).2.status ≠ 422) :
    let reached := s.registry.filter fun e => s.wire.works e.2.socket
    s.pushMessages ⟨none, messages⟩ =
      ({ s with
        registry := reached
        wire := { s.wire with
          sent := s.wire.sent ++ reached.map fun e => (e.2.socket, Frame.messages messages) } },
        pushed reached.length) := by
  rw [s.pushMessages_of_sound (sound_of_accepted h)]
  simp only [Round.start, Round.addressees, Round.answer, Registry.deliverAll_wire,
    Registry.count_deliverAll, Registry.registry_deliverAll_self hnodup]

/-- What the service does with a batch for one device. -/
theorem pushMessages_one {s : Service} {id : String} {messages : List Json}
    (h : (s.pushMessages ⟨some id, messages⟩).2.status ≠ 422) :
    s.pushMessages ⟨some id, messages⟩ = match Record.get? s.registry id with
      | none => (s, .detail 404 "Device not connected.")
      | some device =>
        if s.wire.works device.socket then
          ({ s with wire := { s.wire with
              sent := s.wire.sent ++ [(device.socket, Frame.messages messages)] } }, pushed 1)
        else ({ s with registry := Record.erase s.registry id },
          .detail 404 "Device not connected.") := by
  have hpush : s.pushMessages ⟨some id, messages⟩ = s.pushToOne id messages := by
    simp only [pushMessages, sound_of_accepted h, Bool.false_eq_true, if_false]
  rw [hpush]
  cases hget : Record.get? s.registry id with
  | none => simp [pushToOne, Registry.push, hget]
  | some device =>
    -- the device hears it, or is taken off the registry
    cases hworks : s.wire.works device.socket with
    | true => simp [pushToOne, Registry.push, Registry.deliver, Wire.send, hget, hworks]
    | false => simp [pushToOne, Registry.push, Registry.deliver, Registry.unregister, hget, hworks]

/-- A body that is refused as invalid changes nothing, nor does one with a batch that is. -/
theorem post_push_of_refused (s : Service) {body : String} {answer : Answer}
    (h : (s.post .push body).2 = .ok answer) (hstatus : answer.status = 422) :
    (s.post .push body).1 = s := by
  simp only [post] at h ⊢
  split at h
  · rename_i request _
    cases h
    exact s.pushMessages_of_structural request ((s.status_pushMessages_eq_iff request).mp hstatus)
  · rfl

end Service

/-! ## In company -/

namespace Round

/-- The texts that a push has sent, each with its socket. -/
def sent (p : Round) : List (String × String) := p.reached.map fun e => (e.2.socket, p.text)

/-- A push that has a text for these devices: each of them it has yet to come to, or it got the text,
or it did not. -/
structure Tours (p : Round) (device : Option String) (text : String)
    (devices : List (String × Device)) : Prop where
  device : p.device = device
  text : p.text = text
  perm : (p.waiting ++ (p.reached ++ p.missed)).Perm devices

/-- A round begins with all of its devices to come to. -/
theorem tours_start (r : Registry) (device : Option String) (messages : List Json) :
    (start r device messages).Tours device (Frame.messages messages) (addressees r device) :=
  ⟨rfl, rfl, by simp [start]⟩

/-- A round that has come to a device has one less to come to. -/
theorem Tours.visit {p : Round} {device : Option String} {text : String}
    {devices : List (String × Device)} (h : p.Tours device text devices) {index : Nat}
    {e : String × Device} (he : p.waiting[index]? = some e) (got : Bool) :
    (p.visit index e got).Tours device text devices := by
  obtain ⟨hlt, rfl⟩ := List.getElem?_eq_some_iff.mp he
  refine ⟨h.device, h.text, .trans ?_ h.perm⟩
  have hwaiting := (List.getElem_cons_eraseIdx_perm hlt).append_right (p.reached ++ p.missed)
  refine .trans ?_ hwaiting
  -- the device goes from those that wait to one of the other two
  cases got with
  | true =>
    have hmiddle := @List.perm_middle _ p.waiting[index]
      (p.waiting.eraseIdx index ++ p.reached) p.missed
    simpa [Round.visit] using hmiddle
  | false =>
    have hmiddle := @List.perm_middle _ p.waiting[index]
      (p.waiting.eraseIdx index ++ (p.reached ++ p.missed)) []
    simpa [Round.visit] using hmiddle

theorem sent_visit (p : Round) (index : Nat) (e : String × Device) (got : Bool) :
    (p.visit index e got).sent = p.sent ++ if got then [(e.2.socket, p.text)] else [] := by
  cases got with
  | true => simp [sent, visit]
  | false => simp [sent, visit]

end Round

namespace Traffic

variable {x : Traffic}

/-- A push goes on by turns of its own only. -/
theorem getElem?_rounds_step {number : Nat} {p : Round} (h : x.rounds[number]? = some p) (t : Turn) :
    (x.step t).rounds[number]? = some p ∨ ∃ index e, t = .send number index ∧
      p.waiting[index]? = some e ∧
      (x.step t).rounds[number]? = some (p.visit index e (x.service.wire.works e.2.socket)) := by
  generalize hy : x.step t = y
  have htaken := hy ▸ x.taken_step t
  obtain ⟨hlt, -⟩ := List.getElem?_eq_some_iff.mp h
  cases htaken with
  | idle | accept | take | enrol | tell | disconnect | disturb | save => exact Or.inl h
  | push | pushDesign => exact Or.inl ((List.getElem?_append_left hlt).trans h)
  | @send other index q e hround hwaiting =>
    by_cases hother : other = number
    · subst hother
      obtain rfl : q = p := Option.some.inj (hround.symm.trans h)
      exact Or.inr ⟨index, e, rfl, hwaiting, x.getElem?_rounds_send hround hwaiting⟩
    · left
      simp only [send, hround, hwaiting]
      exact (List.getElem?_set_ne hother).trans h

/-- However a push goes on, it comes to its devices, to each once. -/
theorem exists_tours_run {number : Nat} {p : Round} {device : Option String} {text : String}
    {devices : List (String × Device)} (hp : x.rounds[number]? = some p)
    (h : p.Tours device text devices) (turns : List Turn) :
    ∃ q, (x.run turns).rounds[number]? = some q ∧ q.Tours device text devices := by
  induction turns generalizing x p with
  | nil => exact ⟨p, hp, h⟩
  | cons t turns ih =>
    rcases x.getElem?_rounds_step hp t with hsame | ⟨index, e, -, he, hvisit⟩
    · exact ih hsame h
    · exact ih hvisit (h.visit he _)

/-- What a push does that sends to one of its devices. -/
theorem service_send_eq (h : (Record.keys x.service.registry).Nodup) {number index : Nat} {p : Round}
    {e : String × Device} (hround : x.rounds[number]? = some p) (he : p.waiting[index]? = some e) :
    (x.send number index).service = { x.service with
      registry := x.service.registry.filter fun f =>
        x.service.wire.works e.2.socket || decide ¬ (f.1 = e.1 ∧ f.2.socket = e.2.socket)
      wire := x.service.wire.send e.2.socket p.text } := by
  rw [x.service_send hround he, Registry.registry_deliver h, Registry.wire_deliver]

end Traffic

/-! ## What is on the wire -/

namespace SessionState

theorem wire_finish (s : SessionState) (socket : String) (fault : Option SessionFault) :
    (s.finish socket fault).wire = s.wire := by
  obtain ⟨session, registry, wire⟩ := s
  rcases session with ⟨id, _ | _⟩ | ended <;> rfl

theorem wire_take (s : SessionState) (socket text : String) : (s.take socket text).1.wire = s.wire := by
  unfold take
  split
  · rfl
  · split
    · split <;> rfl
    · exact s.wire_finish _ _
    · rfl

/-- A session that tells its device acknowledges a registration, or else sends nothing. -/
theorem sent_tell (s : SessionState) (socket : String) : (s.tell socket).wire.sent = s.wire.sent ∨
    ∃ id text, Frame.acknowledge id = .ok text ∧
      (s.tell socket).wire.sent = s.wire.sent ++ [(socket, text)] := by
  have htold := s.told_tell socket
  generalize s.tell socket = t at htold ⊢
  cases htold with
  | idle => exact Or.inl rfl
  | told hsession htext hworks => exact Or.inr ⟨_, _, htext, by rw [Wire.sent_send, if_pos hworks]⟩
  | failed fault => exact Or.inl (by rw [s.wire_finish])

end SessionState

namespace Traffic

variable {x : Traffic}

/-- Every text on the wire acknowledges a registration, or it is one that a push has sent. -/
def Accounted (x : Traffic) : Prop :=
  ∃ acknowledged : List (String × String), (∀ a ∈ acknowledged, ∃ id, Frame.acknowledge id = .ok a.2) ∧
    x.service.wire.sent.Perm (acknowledged ++ x.rounds.flatMap Round.sent)

/-- Where nothing was sent there is nothing to account for. -/
theorem accounted_quiet {s : Service} (h : s.wire.sent = []) : (quiet s).Accounted :=
  ⟨[], by simp, by simp [quiet, h]⟩

/-- A text that acknowledges a registration is accounted for. -/
theorem Accounted.after (h : x.Accounted) {socket : String} {t : SessionState}
    {next : Option Pending} (ht : t.wire.sent = x.service.wire.sent ∨
      ∃ id text, Frame.acknowledge id = .ok text ∧
        t.wire.sent = x.service.wire.sent ++ [(socket, text)]) :
    (x.after socket t next).Accounted := by
  obtain ⟨acknowledged, hacknowledged, hsent⟩ := h
  rcases ht with hsame | ⟨id, text, htext, hmore⟩
  · exact ⟨acknowledged, hacknowledged, (List.Perm.of_eq hsame).trans hsent⟩
  · refine ⟨acknowledged ++ [(socket, text)], ?_, ?_⟩
    · intro a ha
      rcases List.mem_append.mp ha with hold | hnew
      · exact hacknowledged a hold
      · exact ⟨id, by rw [List.mem_singleton.mp hnew, htext]⟩
    · have hlast := hsent.append_right [(socket, text)]
      have hswap := (@List.perm_append_comm _ (x.rounds.flatMap Round.sent)
        [(socket, text)]).append_left acknowledged
      rw [List.append_assoc] at hlast ⊢
      exact (List.Perm.of_eq hmore).trans (hlast.trans hswap)

/-- What the pushes have sent, after one of them came to a device. -/
theorem perm_sent_visit {rounds : List Round} {number : Nat} {p : Round}
    (h : rounds[number]? = some p) (index : Nat) (e : String × Device) (got : Bool) :
    ((rounds.set number (p.visit index e got)).flatMap Round.sent).Perm
      (rounds.flatMap Round.sent ++ if got then [(e.2.socket, p.text)] else []) := by
  obtain ⟨hlt, rfl⟩ := List.getElem?_eq_some_iff.mp h
  have hafter := (List.set_perm_cons_eraseIdx hlt (rounds[number].visit index e got)).flatMap_right
    Round.sent
  have hbefore := (List.getElem_cons_eraseIdx_perm hlt).flatMap_right Round.sent
  rw [List.flatMap_cons] at hafter hbefore
  rw [Round.sent_visit, List.append_assoc] at hafter
  have hswap := (@List.perm_append_comm _ (if got then [(e.2.socket, rounds[number].text)] else [])
    ((rounds.eraseIdx number).flatMap Round.sent)).append_left rounds[number].sent
  have hlast := hbefore.append_right (if got then [(e.2.socket, rounds[number].text)] else [])
  rw [List.append_assoc] at hlast
  exact hafter.trans (hswap.trans hlast)

theorem Accounted.step (h : x.Accounted) (t : Turn) : (x.step t).Accounted := by
  generalize hy : x.step t = y
  have htaken := hy ▸ x.taken_step t
  -- one case for each way a turn is taken; only telling and sending write to a socket
  cases htaken with
  | idle | accept | disturb | save => exact h
  | take text => exact h.after (Or.inl (by rw [SessionState.wire_take]; rfl))
  | enrol => exact h.after (Or.inl rfl)
  | tell => exact h.after (SessionState.sent_tell _ _)
  | disconnect => exact h.after (Or.inl (by rw [SessionState.wire_finish]; rfl))
  | push | pushDesign =>
    obtain ⟨acknowledged, hacknowledged, hsent⟩ := h
    refine ⟨acknowledged, hacknowledged, ?_⟩
    simpa [begin, Round.start, Round.sent] using hsent
  | @send number index p e hround hwaiting =>
    obtain ⟨acknowledged, hacknowledged, hsent⟩ := h
    refine ⟨acknowledged, hacknowledged, ?_⟩
    have hwire : (x.send number index).service.wire.sent = x.service.wire.sent ++
        if x.service.wire.works e.2.socket then [(e.2.socket, p.text)] else [] := by
      rw [x.service_send hround hwaiting, Registry.wire_deliver, Wire.sent_send]
    -- what is sent moves from what the round owes to what it has sent
    have hmore := (perm_sent_visit hround index e (x.service.wire.works e.2.socket)).symm
    have hnew := (hsent.append_right _).trans
      ((List.append_assoc _ _ _).symm ▸ hmore.append_left acknowledged)
    rw [hwire, x.rounds_send hround hwaiting]
    exact hnew

/-- Every text of a run is accounted for. -/
theorem Accounted.run (h : x.Accounted) (turns : List Turn) : (x.run turns).Accounted := by
  induction turns generalizing x with
  | nil => exact h
  | cons t turns ih => exact ih (h.step t)

/-- A push reaches each of its devices once.  In a service that whatever turns have led to, no socket has
two entries.  A push to all sends the frame of its batch to every socket with an entry, once, unless the
socket fails; it counts the others, and their entries are those that stay.  A push to one device sends it
to the socket with the entry of that id, and to no other, and is answered with 404 exactly if there is no
such entry or its socket fails; then this entry goes.  What is refused as invalid changes nothing.

So it is in company too, whatever is done while a push is under way: each device that was there as it
began it has yet to come to, or it got the frame, or it did not, and the push is answered with those that
got it.  As it comes to a device it takes out, if the socket fails, the entry of this id over this socket
and no other.  Every text on the wire was sent by one push to one device, or it acknowledges. -/
theorem push_reaches_each_device_once (storage : Storage) (acceptsOverlay : Bool) (now : Stamp)
    (clock : String) (turns : List Turn) :
    let x := (quiet (Service.new storage acceptsOverlay now clock)).run turns
    let s := x.service
    (s.registry.map fun e => e.2.socket).Nodup ∧
    (∀ messages, (s.pushMessages ⟨none, messages⟩).2.status ≠ 422 →
      let reached := s.registry.filter fun e => s.wire.works e.2.socket
      s.pushMessages ⟨none, messages⟩ =
        ({ s with
          registry := reached
          wire := { s.wire with
            sent := s.wire.sent ++ reached.map fun e => (e.2.socket, Frame.messages messages) } },
          Service.pushed reached.length)) ∧
    (∀ id messages, (s.pushMessages ⟨some id, messages⟩).2.status ≠ 422 →
      s.pushMessages ⟨some id, messages⟩ = match Record.get? s.registry id with
        | none => (s, .detail 404 "Device not connected.")
        | some device =>
          if s.wire.works device.socket then
            ({ s with wire := { s.wire with
                sent := s.wire.sent ++ [(device.socket, Frame.messages messages)] } },
              Service.pushed 1)
          else ({ s with registry := Record.erase s.registry id },
            .detail 404 "Device not connected.")) ∧
    (∀ request, (s.pushMessages request).2.status = 422 →
      (s.pushMessages request).1 = s ∧ x.step (.push request) = x) ∧
    (∀ body answer, (s.post .push body).2 = .ok answer → answer.status = 422 →
      (s.post .push body).1 = s) ∧
    (∀ request later, (s.pushMessages request).2.status ≠ 422 →
      let y := (x.step (.push request)).run later
      ∃ p, y.rounds[x.rounds.length]? = some p ∧
        p.Tours request.device (Frame.messages request.messages)
          (Round.addressees s.registry request.device) ∧
        (p.waiting = [] → p.answer? = some (Round.answer request.device p.reached.length)) ∧
        ∀ index e, p.waiting[index]? = some e →
          let got := y.service.wire.works e.2.socket
          let z := y.step (.send x.rounds.length index)
          z.rounds[x.rounds.length]? = some (p.visit index e got) ∧
          z.service = { y.service with
            registry := y.service.registry.filter fun f =>
              got || decide ¬ (f.1 = e.1 ∧ f.2.socket = e.2.socket)
            wire := y.service.wire.send e.2.socket (Frame.messages request.messages) }) ∧
    x.Accounted := by
  intro x s
  have hx : x.Owned := (owned_quiet rfl).run turns
  refine ⟨hx.nodup_sockets, fun messages haccepted => ?_, fun id messages haccepted => ?_,
    fun request hrefused => ?_, fun body answer => s.post_push_of_refused,
    fun request later haccepted => ?_, (accounted_quiet rfl).run turns⟩
  · exact Service.pushMessages_all hx.nodup haccepted
  · exact Service.pushMessages_one haccepted
  · have hbroken := (s.status_pushMessages_eq_iff request).mp hrefused
    exact ⟨s.pushMessages_of_structural request hbroken, by simp only [step, hbroken, if_true]⟩
  · intro y
    -- the round that this push begins is the last one, and has nobody reached yet
    have hround : (x.step (.push request)).rounds[x.rounds.length]? =
        some (Round.start s.registry request.device request.messages) := by
      rw [x.step_push (Service.sound_of_accepted haccepted)]
      exact List.getElem?_concat_length
    obtain ⟨p, hp, htours⟩ := exists_tours_run hround (Round.tours_start _ _ _) later
    have hy : y.Owned := (hx.step _).run later
    refine ⟨p, hp, htours, fun hwaiting => ?_, fun index e he => ⟨?_, ?_⟩⟩
    · simp only [Round.answer?, hwaiting, htours.device, List.isEmpty_nil, if_true]
    · exact y.getElem?_rounds_send hp he
    · rw [← htours.text]
      exact y.service_send_eq hy.nodup hp he

/-- Of two devices the socket of one fails.  The other gets the frame, is counted, and stays. -/
theorem push_reaches_one_of_two_devices :
    let connect (socket id : String) : List Turn := [.accept socket 0,
      .take socket (Frame.register "ios" id), .enrol socket, .tell socket]
    let tile : List Json := [.obj [("createSurface", .obj [("surfaceId", .str "tile")])]]
    let turns := connect "a" "phone" ++ connect "b" "tablet" ++ [.disturb "b" true]
    let x := (quiet (Service.new (.shelf []) false ⟨2026, 10, 19, 15, 7⟩ "")).run turns
    (x.service.pushMessages ⟨none, tile⟩).2.status ≠ 422 ∧
      x.service.pushMessages ⟨none, tile⟩ =
        ({ x.service with
          registry := [("phone", ⟨"ios", "a"⟩)]
          wire := { x.service.wire with
            sent := x.service.wire.sent ++ [("a", Frame.messages tile)] } },
          Service.pushed 1) := by
  intro connect tile turns x
  have haccepted : (x.service.pushMessages ⟨none, tile⟩).2.status ≠ 422 := by decide +kernel
  have hreached : (x.service.registry.filter fun e => x.service.wire.works e.2.socket) =
      [("phone", ⟨"ios", "a"⟩)] := by decide +kernel
  have hx : (quiet (Service.new (.shelf []) false ⟨2026, 10, 19, 15, 7⟩ "")).run turns = x := rfl
  obtain ⟨-, hall, -⟩ :=
    push_reaches_each_device_once (.shelf []) false ⟨2026, 10, 19, 15, 7⟩ "" turns
  rw [hx] at hall
  -- from here on what has become of the service is of no interest
  clear_value x
  have hpush := hall tile haccepted
  simp only [hreached] at hpush
  exact ⟨haccepted, hpush⟩

end Traffic

end UiSurface
