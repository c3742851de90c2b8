import UiSurface.Proofs.Causes
import UiSurface.Proofs.Course

/-!
# Following — a client's store is what the messages make of it

A client that nobody stops takes every text that arrives over the connections that it has, one after the
other.  Most texts say nothing; a frame with a batch is taken live.  In the end the store is what all the
sound messages of these frames make of it in order, as if they had come in one batch over one connection
that was never lost.

Main lemmas: `Store.applyValues_append`, `Client.follows_take` (what one text does),
`Course.Followed.step` (a step takes one text at most), `client_folds_what_it_receives`.
-/

namespace UiSurface

namespace Store

/-- Applying values one after the other can be done in two parts. -/
theorem applyValues_append {s t u : Store} {vs ws : List Json} {first second : List Outcome}
    (hvs : s.applyValues vs = (t, .ok first)) (hws : t.applyValues ws = (u, .ok second)) :
    s.applyValues (vs ++ ws) = (u, .ok (first ++ second)) := by
  -- by the values that come first; none of them fails
  induction vs generalizing s first with
  | nil =>
    obtain ⟨rfl, hfirst⟩ := Prod.mk.inj hvs
    obtain rfl := Except.ok.inj hfirst
    exact hws
  | cons v vs ih =>
    simp only [List.cons_append, applyValues] at hvs ⊢
    generalize s.applyValue v = applied at hvs ⊢
    rcases applied with fault | ⟨next, outcome⟩
    · cases hvs
    · rcases hlater : next.applyValues vs with ⟨t', fault | outcomes⟩
      · simp [hlater, Except.map] at hvs
      · simp only [hlater, Except.map, Prod.mk.injEq, Except.ok.injEq] at hvs
        obtain ⟨rfl, rfl⟩ := hvs
        simp only [ih hlater, Except.map, List.cons_append]

/-- A live batch is the run of its sound messages. -/
theorem applyValues_filter (s : Store) (vs : List Json) :
    s.applyValues (vs.filter Validation.isSound) =
      ((s.applyLive (.arr vs)).1, .ok (s.applyLive (.arr vs)).2.outcomes) := by
  cases vs with
  | nil => rfl
  | cons v vs =>
    obtain ⟨ms, hms⟩ := exists_decodeAll_keptFrom 0 (v :: vs)
    rw [s.applyLive_eq (List.cons_ne_nil v vs) hms, ← keptFrom_eq_filter 0]
    exact s.applyValues_of_decodeAll hms

end Store

/-! ## Texts -/

/-- The batch of a frame: its messages, if it is a frame with messages and they are a list. -/
def batchOfFrame (frame : Record Json) : List Json :=
  match Json.field frame "type", Json.field frame "messages" with
  | .str "a2ui_messages", .arr vs => vs
  | _, _ => []

/-- The batch that a text brings.  A text that is no JSON object brings none. -/
def batchOf (text : String) : List Json :=
  match Json.ofText text with
  | .ok (.obj frame) => batchOfFrame frame
  | _ => []

/-- The messages that attempts bring, in order, over all connections. -/
def messagesOf (attempts : List Attempt) : List Json :=
  (attempts.flatMap Attempt.texts).flatMap batchOf

namespace Client

/-- What a client has become that has taken some messages, the broken ones being skipped. -/
def Follows (c : Client) (vs : List Json) (d : Client) : Prop :=
  ∃ reports, d.reports = c.reports ++ reports ∧
    c.store.applyValues (vs.filter Validation.isSound) =
      (d.store, .ok (reports.flatMap Store.LiveReport.outcomes))

/-- A client that has the store and the reports of another. -/
structure KeepsAll (c d : Client) : Prop where
  store : d.store = c.store
  reports : d.reports = c.reports
  stopping : d.stopping = c.stopping

/-- A client that keeps everything has taken no message. -/
theorem follows_nil {c d : Client} (h : c.KeepsAll d) : c.Follows [] d :=
  ⟨[], by rw [h.reports, List.append_nil], by rw [h.store]; rfl⟩

/-- What was taken in two parts was taken. -/
theorem Follows.append {c d e : Client} {vs ws : List Json} (hcd : c.Follows vs d)
    (hde : d.Follows ws e) : c.Follows (vs ++ ws) e := by
  obtain ⟨reports, hreports, hstore⟩ := hcd
  obtain ⟨later, hlater, hstore'⟩ := hde
  refine ⟨reports ++ later, by rw [hlater, hreports, List.append_assoc], ?_⟩
  rw [List.filter_append, List.flatMap_append]
  exact Store.applyValues_append hstore hstore'

/-- What is no list of messages is taken live without doing anything. -/
theorem follows_report {c : Client} {v : Json} (h : ∀ vs, v ≠ .arr vs) :
    c.Follows [] { c with
      store := (c.store.applyLive v).1, reports := c.reports ++ [(c.store.applyLive v).2] } := by
  cases v with
  | arr vs => exact absurd rfl (h vs)
  | null | bool | num | str | obj => exact ⟨_, rfl, rfl⟩

/-- A frame of another type than the one with messages leaves the store alone. -/
theorem keepsAll_handle (c : Client) {frame : Record Json}
    (h : Json.field frame "type" ≠ .str "a2ui_messages") : c.KeepsAll (c.handle frame).1 := by
  unfold handle
  split
  · exact ⟨rfl, rfl, rfl⟩
  · rename_i htype
    exact absurd htype h
  · exact ⟨rfl, rfl, rfl⟩

/-- A frame is taken for its batch. -/
theorem follows_handle (c : Client) (frame : Record Json) :
    c.Follows (batchOfFrame frame) (c.handle frame).1 := by
  -- a frame of any other type leaves the store alone
  by_cases htype : Json.field frame "type" = .str "a2ui_messages"
  · have hhandle : (c.handle frame).1 = { c with
        store := (c.store.applyLive (Json.field frame "messages")).1
        reports := c.reports ++ [(c.store.applyLive (Json.field frame "messages")).2] } := by
      simp only [handle, htype]
    rw [hhandle]
    cases hmessages : Json.field frame "messages" with
    | arr vs =>
      have hbatch : batchOfFrame frame = vs := by simp only [batchOfFrame, htype, hmessages]
      rw [hbatch]
      exact ⟨_, rfl, by rw [List.flatMap_singleton]; exact c.store.applyValues_filter vs⟩
    | null | bool | num | str | obj =>
      have hbatch : batchOfFrame frame = [] := by simp only [batchOfFrame, htype, hmessages]
      rw [hbatch]
      exact follows_report nofun
  · have hbatch : batchOfFrame frame = [] := by
      unfold batchOfFrame
      split
      · rename_i hmessages _
        exact absurd hmessages htype
      · rfl
    rw [hbatch]
    exact follows_nil (c.keepsAll_handle htype)

/-- A text is taken for its batch. -/
theorem follows_take {c d : Client} {text : String} (h : c.take text = .ok d) :
    c.Follows (batchOf text) d := by
  unfold take at h
  unfold batchOf
  cases htext : Json.ofText text with
  | ok v =>
    cases v with
    | obj frame =>
      simp only [htext, Except.ok.injEq] at h
      exact h ▸ c.follows_handle frame
    | null | bool | num | str | arr =>
      simp only [htext, Except.ok.injEq] at h
      exact h ▸ follows_nil ⟨rfl, rfl, rfl⟩
  | error fault =>
    cases fault with
    | malformed cause line column offset =>
      simp only [htext, Except.ok.injEq] at h
      exact h ▸ follows_nil ⟨rfl, rfl, rfl⟩
    | digits fault => simp [htext] at h

end Client

namespace Course

open Client (never)

/-! ## Steps that take no text -/

/-- A run that has gone on from a client without taking a text. -/
structure GoesOn (d : Client) (rest : List Attempt) (x : Course) : Prop where
  client : d.KeepsAll x.client
  rest : x.rest <:+ rest

section Steps

variable {c d : Client} {rest attempts : List Attempt}

theorem goesOn_retry (d : Client) (rest : List Attempt) : GoesOn d rest (retry d rest) := by
  unfold retry
  split
  · exact ⟨⟨rfl, rfl, rfl⟩, List.suffix_refl rest⟩
  · split
    · exact ⟨⟨rfl, rfl, rfl⟩, List.suffix_refl rest⟩
    · split <;> exact ⟨⟨rfl, rfl, rfl⟩, List.suffix_refl rest⟩

theorem goesOn_tryNext (d : Client) (rest : List Attempt) : GoesOn d rest (tryNext d rest) := by
  unfold tryNext
  split
  · exact ⟨⟨rfl, rfl, rfl⟩, List.suffix_refl rest⟩
  · exact ⟨⟨rfl, rfl, rfl⟩, List.tail_suffix rest⟩

theorem goesOn_listen (h : d.stopping = false) (rest : List Attempt) (texts : List String) :
    GoesOn d rest (listen d rest texts) := by
  cases texts <;> simp only [listen, h, Bool.false_eq_true, if_false] <;>
    exact ⟨⟨rfl, rfl, rfl⟩, List.suffix_refl rest⟩

/-! ## The run -/

/-- A run that follows what arrives: it has taken the texts that are not still to come. -/
structure Followed (c : Client) (attempts : List Attempt) (x : Course) : Prop where
  awake : x.client.stopping = false
  rest : x.rest <:+ attempts
  taken : ∃ seen, seen ++ x.toCome = attempts.flatMap Attempt.texts ∧
    c.Follows (seen.flatMap batchOf) x.client

/-- A run still follows if it has gone on without taking a text. -/
theorem GoesOn.followed {x : Course} (h : GoesOn d rest x) (hawake : d.stopping = false)
    (hrest : rest <:+ attempts) {seen : List String}
    (hseen : seen ++ x.toCome = attempts.flatMap Attempt.texts)
    (htaken : c.Follows (seen.flatMap batchOf) d) : x.Followed c attempts := by
  refine ⟨h.client.stopping.trans hawake, h.rest.trans hrest, seen, hseen, ?_⟩
  simpa using htaken.append (Client.follows_nil h.client)

/-- A step takes one text at most. -/
theorem Followed.step (hlegible : Legible attempts) {x : Course} (h : x.Followed c attempts) :
    (x.step never).Followed c attempts := by
  obtain ⟨d, spot, rest⟩ := x
  obtain ⟨hawake, hrest, seen, hseen, htaken⟩ := h
  rw [step_never]
  -- at every spot, what has been read and what is still to come make up the texts
  cases spot with
  | connecting attempt =>
    cases attempt with
    | refused =>
      refine (goesOn_retry d rest).followed hawake hrest ?_ htaken
      rwa [toCome_retry]
    | connected link =>
      have hlink : GoesOn d rest ⟨d.enrol link, .sending link, rest⟩ :=
        ⟨⟨rfl, rfl, rfl⟩, List.suffix_refl rest⟩
      exact hlink.followed hawake hrest hseen htaken
  | sending link =>
    simp only [resume]
    split
    · rename_i haccepts
      refine (goesOn_listen hawake rest link.incoming).followed hawake hrest ?_ htaken
      rw [toCome_listen hawake]
      simpa [toCome, Spot.texts, Link.texts, haccepts] using hseen
    · rename_i hrefuses
      refine (goesOn_retry d.hangUp rest).followed hawake hrest ?_ htaken
      rw [toCome_retry]
      simpa [toCome, Spot.texts, Link.texts, hrefuses] using hseen
  | receiving text later =>
    have harrives : text ∈ attempts.flatMap Attempt.texts := by
      rw [← hseen]
      simp [toCome, Spot.texts]
    simp only [resume]
    cases htake : d.take text with
    | ok e =>
      have hstopping : e.stopping = false := by
        obtain ⟨store, registered, reports, rfl⟩ := Client.take_eq htake
        exact hawake
      have hbatch : c.Follows ((seen ++ [text]).flatMap batchOf) e := by
        rw [List.flatMap_append, List.flatMap_singleton]
        exact htaken.append (Client.follows_take htake)
      refine (goesOn_listen hstopping rest later).followed hstopping hrest ?_ hbatch
      rw [toCome_listen hstopping]
      simpa [toCome, Spot.texts] using hseen
    | error digits =>
      -- a legible text does not end the client
      exact absurd (Client.ofText_of_take_error htake) (hlegible.ofText_ne harrives digits)
  | losing =>
    refine (goesOn_retry (d.setIncoming []).hangUp rest).followed hawake hrest ?_ htaken
    rwa [toCome_retry]
  | sleeping =>
    refine (goesOn_tryNext d rest).followed hawake hrest ?_ htaken
    rwa [toCome_tryNext]
  | ended fault => exact ⟨hawake, hrest, seen, hseen, htaken⟩

end Steps

end Course

namespace Client

/-- The attempts that a client makes in a run that nobody stops. -/
def made (c : Client) (attempts : List Attempt) : List Attempt :=
  attempts.take (attempts.length - (c.run never attempts).2.1.length)

/-- A client that nobody stops has taken what its attempts brought. -/
theorem follows_run {c : Client} (hc : c.stopping = false) {attempts : List Attempt}
    (h : Legible attempts) : c.made attempts ++ (c.run never attempts).2.1 = attempts ∧
      c.Follows (messagesOf (c.made attempts)) (c.run never attempts).1 := by
  have hnothing : c.Follows (([] : List String).flatMap batchOf) c := follows_nil ⟨rfl, rfl, rfl⟩
  have hstart : (Course.tryNext c attempts).Followed c attempts :=
    (Course.goesOn_tryNext c attempts).followed hc (List.suffix_refl attempts)
      (Course.toCome_tryNext c attempts) hnothing
  obtain ⟨-, ⟨made, hmade⟩, seen, hseen, htaken⟩ :=
    (Course.reaches_run c attempts).induction hstart fun _ hfollowed => hfollowed.step h
  change made ++ (c.run never attempts).2.1 = attempts at hmade
  -- the attempts that are left are a suffix, so those that were made are the rest
  have hall : c.made attempts = made := by
    have hlength : attempts.length - (c.run never attempts).2.1.length = made.length := by
      have := congrArg List.length hmade
      rw [List.length_append] at this
      omega
    rw [Client.made, hlength]
    exact (List.prefix_iff_eq_take.mp ⟨_, hmade⟩).symm
  have harrived : seen = made.flatMap Attempt.texts := by
    have htexts : made.flatMap Attempt.texts ++ (c.run never attempts).2.1.flatMap Attempt.texts =
        attempts.flatMap Attempt.texts := by rw [← List.flatMap_append, hmade]
    exact List.append_cancel_right (hseen.trans htexts.symm)
  rw [hall, messagesOf, ← harrived]
  exact ⟨hmade, htaken⟩

end Client

/-- A client that nobody stops, and that can read or pass over every text, folds what it receives.  The
attempts that it makes are the first ones of the script.  Its store in the end is what the sound messages
of the batches, of all connections in the order of their arrival, make of its store in the beginning, and
its reports are added to with the outcomes.  So only the messages one after the other matter, and not how
they were cut into frames and connections. -/
theorem client_folds_what_it_receives {c : Client} (hc : c.stopping = false) {attempts : List Attempt}
    (h : Legible attempts) :
    c.made attempts ++ (c.run Client.never attempts).2.1 = attempts ∧
    (∃ reports, (c.run Client.never attempts).1.reports = c.reports ++ reports ∧
      c.store.applyValues ((messagesOf (c.made attempts)).filter Validation.isSound) =
        ((c.run Client.never attempts).1.store, .ok (reports.flatMap Store.LiveReport.outcomes))) ∧
    ∀ d : Client, d.stopping = false → ∀ others : List Attempt, Legible others → d.store = c.store →
      messagesOf (d.made others) = messagesOf (c.made attempts) →
        (d.run Client.never others).1.store = (c.run Client.never attempts).1.store := by
  obtain ⟨hmade, hfollows⟩ := c.follows_run hc h
  refine ⟨hmade, hfollows, fun d hd others hothers hstore hmessages => ?_⟩
  obtain ⟨reports, -, hfold⟩ := hfollows
  obtain ⟨later, -, hfold'⟩ := (d.follows_run hd hothers).2
  rw [hstore, hmessages] at hfold'
  exact congrArg Prod.fst (hfold'.symm.trans hfold)

/-- Two messages reach one client in two frames over two connections, among texts that say nothing and
beside a message that is broken; and another client in one frame.  Their stores are the same in the
end. -/
theorem two_ways_to_one_store :
    let create : String → String := fun id =>
      "\x7b\"createSurface\":\x7b\"surfaceId\":\"" ++ id ++ "\"\x7d\x7d"
    let frame : String → String := fun messages =>
      "\x7b\"type\":\"a2ui_messages\",\"messages\":[" ++ messages ++ "]\x7d"
    let link : List String → Attempt := fun texts => .connected ⟨true, texts, [], false⟩
    let cut := [link [frame (create "a" ++ ",1"), "no JSON", "[]"], .refused, link [frame (create "b")]]
    let whole := [link [frame (create "a" ++ ",1," ++ create "b")]]
    let c := Client.new "ios" "phone-1" 3 (.int 30) (.empty false)
    c.stopping = false ∧ Legible cut ∧ Legible whole ∧
      (c.run Client.never whole).1.store.ids = ["a", "b"] ∧
      (c.run Client.never cut).1.store = (c.run Client.never whole).1.store := by
  intro create frame link cut whole c
  have hcut : Legible cut := by
    unfold Legible
    decide +kernel
  have hwhole : Legible whole := by
    unfold Legible
    decide +kernel
  have hmessages : messagesOf (c.made cut) = messagesOf (c.made whole) := by decide +kernel
  exact ⟨rfl, hcut, hwhole, by decide +kernel,
    (client_folds_what_it_receives rfl hwhole).2.2 c rfl cut hcut rfl hmessages⟩

end UiSurface
