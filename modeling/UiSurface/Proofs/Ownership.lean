import UiSurface.Proofs.Turns

/-!
# Who owns an entry of the registry

Many sockets may want the same id, and one socket may go from id to id.  An entry is taken out in three
places: when its session takes another id, when its session ends, and when a push fails, which may look
at an entry that was there long ago.  Each of them takes out what belongs to its own socket and nothing
else.  So at every moment, whatever is under way, an entry is under the id that the session of its socket
goes by, that session has not ended, and it has no second entry.

Main lemmas: `Registry.mem_unregister` (what is taken out), `Owned.after` (what a session may do),
`Owned.step` and `Owned.run` (the invariant), `get?_registry_step` (whose turn an entry can go by),
`registry_follows_sessions`.
-/

namespace UiSurface

/-! ## Entries -/

namespace Registry

/-- A socket takes out the entry of an id if it is its own, and nothing else. -/
theorem unregister_eq_filter {r : Registry} (h : (Record.keys r).Nodup) (id socket : String) :
    r.unregister id (some socket) = r.filter fun e => decide ¬ (e.1 = id ∧ e.2.socket = socket) := by
  unfold unregister
  cases hget : Record.get? r id with
  | none =>
    refine (List.filter_eq_self.mpr fun e he => ?_).symm
    have hne : e.1 ≠ id := by
      rintro rfl
      exact (Record.get?_eq_none_iff r _).mp hget (Record.mem_keys_of_mem he)
    simp [hne]
  | some device =>
    -- the id has one entry
    have hown : ∀ e ∈ r, e.1 = id → e.2 = device := by
      rintro e he rfl
      exact Option.some.inj ((Record.get?_of_mem h he).symm.trans hget)
    by_cases hsocket : socket = device.socket
    · simp only [Option.all_some, hsocket, beq_self_eq_true, if_true, Record.erase]
      refine List.filter_congr fun e he => ?_
      by_cases hid : e.1 = id
      · simp [hid, hown e he hid]
      · simp [hid, bne]
    · simp only [Option.all_some, beq_iff_eq, hsocket, if_false]
      refine (List.filter_eq_self.mpr fun e he => ?_).symm
      by_cases hid : e.1 = id
      · simp [hown e he hid, Ne.symm hsocket]
      · simp [hid]

/-- A socket takes out its own entry and no other. -/
theorem mem_unregister {r : Registry} (h : (Record.keys r).Nodup) {id socket : String}
    {e : String × Device} :
    e ∈ r.unregister id (some socket) ↔ e ∈ r ∧ ¬ (e.1 = id ∧ e.2.socket = socket) := by
  rw [unregister_eq_filter h, List.mem_filter, decide_eq_true_eq]

/-- No id comes twice into a registry by taking one out. -/
theorem nodup_unregister {r : Registry} (h : (Record.keys r).Nodup) (id : String)
    (socket : Option String) : (Record.keys (r.unregister id socket)).Nodup := by
  unfold unregister
  split
  · split
    · exact Record.nodup_keys_erase r id h
    · exact h
  · exact h

/-- A socket leaves alone what belongs to another. -/
theorem get?_unregister_of_socket_ne {r : Registry} {id : String} {device : Device}
    (h : Record.get? r id = some device) {socket : String} (hne : socket ≠ device.socket)
    (other : String) : Record.get? (r.unregister other (some socket)) id = some device := by
  by_cases hid : id = other
  · subst hid
    rw [r.unregister_of_ne id socket device h hne, h]
  · rw [r.get?_unregister_of_ne (some socket) hid, h]

/-- What becomes of the registry where a socket takes out its own entry, if anything. -/
def Left (socket : String) (r s : Registry) : Prop :=
  s = r ∨ ∃ id, s = r.unregister id (some socket)

/-- What is left of a registry has no id twice. -/
theorem Left.nodup {socket : String} {r s : Registry} (h : Left socket r s)
    (hr : (Record.keys r).Nodup) : (Record.keys s).Nodup := by
  obtain rfl | ⟨id, rfl⟩ := h
  · exact hr
  · exact nodup_unregister hr id _

/-- Nothing comes into a registry by taking its own entry out. -/
theorem Left.subset {socket : String} {r s : Registry} (h : Left socket r s)
    (hr : (Record.keys r).Nodup) : s ⊆ r := by
  obtain rfl | ⟨id, rfl⟩ := h
  · exact List.Subset.refl _
  · exact fun e he => ((mem_unregister hr).mp he).1

/-- Entries of other sockets stay. -/
theorem Left.get? {socket : String} {r s : Registry} (h : Left socket r s) {id : String}
    {device : Device} (hget : Record.get? r id = some device) (hne : socket ≠ device.socket) :
    Record.get? s id = some device := by
  obtain rfl | ⟨other, rfl⟩ := h
  · exact hget
  · exact get?_unregister_of_socket_ne hget hne other

/-- A text that does not arrive takes out the entry that it was sent to. -/
theorem left_deliver (r : Registry) (w : Wire) (id : String) (device : Device) (text : String) :
    Left device.socket r (r.deliver w id device text).1 := by
  unfold deliver
  cases w.works device.socket with
  | true => exact Or.inl rfl
  | false => exact Or.inr ⟨id, rfl⟩

end Registry

/-! ## Sessions -/

namespace SessionState

variable {s : SessionState} {socket : String}

/-- A session that has no entry but one under the id that it goes by. -/
structure Owned (s : SessionState) (socket : String) : Prop where
  nodup : (Record.keys s.registry).Nodup
  held : ∀ e ∈ s.registry, e.2.socket = socket → s.session = .alive e.1 true

/-- A session that is finished takes out its own entry. -/
theorem left_finish (s : SessionState) (socket : String) (fault : Option SessionFault) :
    Registry.Left socket s.registry (s.finish socket fault).registry := by
  obtain ⟨session, registry, wire⟩ := s
  rcases session with ⟨id, _ | _⟩ | ended
  · exact Or.inl rfl
  · exact Or.inr ⟨id, rfl⟩
  · exact Or.inl rfl

/-- A session that ends leaves no entry behind. -/
theorem Owned.finish (h : s.Owned socket) (fault : Option SessionFault) :
    ∀ e ∈ (s.finish socket fault).registry, e.2.socket ≠ socket := by
  obtain ⟨session, registry, wire⟩ := s
  intro e he hsocket
  have hold := (left_finish _ socket fault).subset h.nodup he
  obtain rfl : session = .alive e.1 true := h.held e hold hsocket
  exact ((Registry.mem_unregister h.nodup).mp he).2 ⟨rfl, hsocket⟩

/-- A session that goes by another id takes out its own entry. -/
theorem left_giveUp (s : SessionState) (socket id : String) :
    Registry.Left socket s.registry (s.giveUp socket id) := by
  unfold giveUp
  split
  · split
    · exact Or.inl rfl
    · exact Or.inr ⟨_, rfl⟩
  · exact Or.inl rfl

/-- Before a session takes an id, it has no entry under another. -/
theorem Owned.giveUp (h : s.Owned socket) (id : String) :
    ∀ e ∈ s.giveUp socket id, e.2.socket = socket → e.1 = id := by
  intro e he hsocket
  have hold := (left_giveUp s socket id).subset h.nodup he
  have hsession := h.held e hold hsocket
  by_cases hid : id = e.1
  · exact hid.symm
  · simp only [SessionState.giveUp, hsession, hid, if_false] at he
    exact absurd ⟨rfl, hsocket⟩ ((Registry.mem_unregister h.nodup).mp he).2

/-- A text that is taken makes no entry yet. -/
theorem left_take (s : SessionState) (socket text : String) :
    Registry.Left socket s.registry (s.take socket text).1.registry := by
  unfold take
  split
  · exact Or.inl rfl
  · split
    · split
      · exact left_giveUp s socket _
      · exact Or.inl rfl
    · exact left_finish s socket _
    · exact Or.inl rfl

/-- Telling a device its id makes no entry. -/
theorem left_tell (s : SessionState) (socket : String) :
    Registry.Left socket s.registry (s.tell socket).registry := by
  have htold := s.told_tell socket
  generalize s.tell socket = t at htold ⊢
  cases htold with
  | idle | told => exact Or.inl rfl
  | failed fault => exact left_finish s socket (some fault)

/-- What a session may leave after a turn: it has no entry but one under the id that it goes by, which is
the id of the registration that it has to make yet, and nobody else has an entry that was not there. -/
structure Leaves (s : SessionState) (socket : String) (t : SessionState) (next : Option Pending) :
    Prop where
  owned : t.Owned socket
  others : ∀ e ∈ t.registry, e.2.socket ≠ socket → e ∈ s.registry
  given : ∀ r, next = some (.register r) → ∀ e ∈ t.registry, e.2.socket = socket →
    r.id.getD e.1 = e.1

/-- A session that is finished leaves no entry behind. -/
theorem Owned.leaves_finish (h : s.Owned socket) (fault : Option SessionFault) :
    s.Leaves socket (s.finish socket fault) none :=
  ⟨⟨(left_finish s socket fault).nodup h.nodup, fun e he hown => absurd hown (h.finish fault e he)⟩,
    fun _ he _ => (left_finish s socket fault).subset h.nodup he, nofun⟩

/-- A text leaves a session no entry but one that it is to register anew. -/
theorem Owned.leaves_take (h : s.Owned socket) (text : String) :
    s.Leaves socket (s.take socket text).1 ((s.take socket text).2.map .register) := by
  have hsame : s.Leaves socket s none := ⟨h, fun _ he _ => he, nofun⟩
  unfold take
  split
  · exact hsame
  · rename_i id registered hsession
    split
    · split
      · rename_i r _
        have hleft := left_giveUp s socket (r.id.getD id)
        refine ⟨⟨hleft.nodup h.nodup, fun e he hown => h.held e (hleft.subset h.nodup he) hown⟩,
          fun e he _ => hleft.subset h.nodup he, fun r' hr' e he hown => ?_⟩
        cases hr'
        -- the id that the session goes by is that of the entry
        have hheld := h.held e (hleft.subset h.nodup he) hown
        rw [hsession] at hheld
        cases hheld
        exact (h.giveUp _ e he hown).symm
      · exact hsame
    · exact h.leaves_finish _
    · exact hsame

/-- A session that registers leaves no entry but its new one. -/
theorem Owned.leaves_enrol (h : s.Owned socket) {r : Registration}
    (hgiven : ∀ e ∈ s.registry, e.2.socket = socket → r.id.getD e.1 = e.1) :
    s.Leaves socket (s.enrol socket r) (some .acknowledge) := by
  unfold enrol
  split
  · exact ⟨h, fun _ he _ => he, nofun⟩
  · rename_i id registered hsession
    refine ⟨⟨Record.nodup_keys_put _ _ _ h.nodup, fun e he hown => ?_⟩, fun e he hne => ?_, nofun⟩
    · rcases Record.mem_put he with rfl | hold
      · rfl
      · have hheld := h.held e hold hown
        rw [hsession] at hheld
        cases hheld
        rw [hgiven e hold hown]
    · rcases Record.mem_put he with rfl | hold
      · exact absurd rfl hne
      · exact hold

theorem Owned.leaves_tell (h : s.Owned socket) : s.Leaves socket (s.tell socket) none := by
  have htold := s.told_tell socket
  generalize s.tell socket = t at htold ⊢
  cases htold with
  | idle => exact ⟨h, fun _ he _ => he, nofun⟩
  | told => exact ⟨⟨h.nodup, h.held⟩, fun _ he _ => he, nofun⟩
  | failed fault => exact h.leaves_finish (some fault)

end SessionState

/-! ## Traffic -/

namespace Traffic

variable {x y : Traffic}

/-- Every entry is that of a session that goes by its id; if the session has a registration to make yet,
it is under this id. -/
structure Owned (x : Traffic) : Prop where
  nodup : (Record.keys x.service.registry).Nodup
  held : ∀ e ∈ x.service.registry,
    Record.get? x.service.sessions e.2.socket = some (.alive e.1 true)
  given : ∀ e ∈ x.service.registry, ∀ r,
    Record.get? x.pending e.2.socket = some (.register r) → r.id.getD e.1 = e.1

/-- Where nobody is registered, everything is owned. -/
theorem owned_quiet {s : Service} (h : s.registry = []) : (quiet s).Owned := by
  constructor <;> simp [quiet, h, Record.keys]

/-- Entries may go if nothing else changes. -/
theorem Owned.mono (h : x.Owned) (hnodup : (Record.keys y.service.registry).Nodup)
    (hsubset : y.service.registry ⊆ x.service.registry)
    (hsessions : y.service.sessions = x.service.sessions) (hpending : y.pending = x.pending) :
    y.Owned := by
  refine ⟨hnodup, fun e he => ?_, fun e he => ?_⟩
  · rw [hsessions]
    exact h.held e (hsubset he)
  · rw [hpending]
    exact h.given e (hsubset he)

/-- Only the session of the socket becomes another one. -/
theorem get?_sessions_after (x : Traffic) (socket other : String) (t : SessionState)
    (next : Option Pending) : Record.get? (x.after socket t next).service.sessions other =
      if socket = other then some t.session else Record.get? x.service.sessions other :=
  Record.get?_put _ _ _ _

theorem get?_pending_after (x : Traffic) (socket other : String) (t : SessionState)
    (next : Option Pending) : Record.get? (x.after socket t next).pending other =
      if socket = other then next else Record.get? x.pending other := by
  cases next with
  | some task => exact Record.get?_put _ _ _ _
  | none =>
    by_cases hother : socket = other
    · subst hother
      simp [after]
    · simp [after, hother, Record.get?_erase_of_ne _ (Ne.symm hother)]

section Session

variable {socket id : String} {registered : Bool}

/-- Where everything is owned, each session owns its own. -/
theorem Owned.sessionState (h : x.Owned)
    (hsession : Record.get? x.service.sessions socket = some (.alive id registered)) :
    (x.service.sessionState (.alive id registered)).Owned socket := by
  refine ⟨h.nodup, fun e he hown => ?_⟩
  have hheld := h.held e he
  rw [hown, hsession] at hheld
  exact Option.some.inj hheld

/-- A session keeps to its own entry. -/
theorem Owned.after (h : x.Owned) {t : SessionState} {next : Option Pending}
    (hleaves : (x.service.sessionState (.alive id registered)).Leaves socket t next) :
    (x.after socket t next).Owned := by
  obtain ⟨howned, hothers, hgiven⟩ := hleaves
  refine ⟨howned.nodup, fun e he => ?_, fun e he r hr => ?_⟩
  · rw [get?_sessions_after]
    by_cases hown : socket = e.2.socket
    · rw [if_pos hown, howned.held e he hown.symm]
    · rw [if_neg hown]
      exact h.held e (hothers e he (Ne.symm hown))
  · rw [get?_pending_after] at hr
    by_cases hown : socket = e.2.socket
    · rw [if_pos hown] at hr
      exact hgiven r hr e he hown.symm
    · rw [if_neg hown] at hr
      exact h.given e (hothers e he (Ne.symm hown)) r hr

end Session

/-- A turn of a push takes out, if anything, the entry that it sent to. -/
theorem left_send {number index : Nat} {p : Round} {e : String × Device}
    (hp : x.rounds[number]? = some p) (he : p.waiting[index]? = some e) :
    Registry.Left e.2.socket x.service.registry (x.send number index).service.registry := by
  rw [x.service_send hp he]
  exact Registry.left_deliver _ _ _ _ _

/-- Whatever turn is taken, every entry is that of a session that goes by its id. -/
theorem Owned.step (h : x.Owned) (t : Turn) : (x.step t).Owned := by
  generalize hy : x.step t = y
  have htaken := hy ▸ x.taken_step t
  cases htaken with
  | idle => exact h
  | @accept socket milliseconds hsession =>
    refine ⟨h.nodup, fun e he => ?_, h.given⟩
    -- a socket that was not open has no entry
    have hne : socket ≠ e.2.socket := by
      rintro rfl
      cases hsession.symm.trans (h.held e he)
    exact (Record.get?_put_of_ne _ _ hne).trans (h.held e he)
  | take text hsession => exact h.after ((h.sessionState hsession).leaves_take text)
  | enrol hsession hpending =>
    refine h.after ((h.sessionState hsession).leaves_enrol fun e he hown => ?_)
    exact h.given e he _ (by rw [hown, hpending])
  | tell hsession => exact h.after (h.sessionState hsession).leaves_tell
  | disconnect hsession => exact h.after ((h.sessionState hsession).leaves_finish none)
  | disturb | save | push | pushDesign => exact ⟨h.nodup, h.held, h.given⟩
  | send hround hwaiting =>
    have hleft := left_send hround hwaiting
    refine h.mono (hleft.nodup h.nodup) (hleft.subset h.nodup) ?_ ?_
    · rw [x.service_send hround hwaiting]
    · simp only [Traffic.send, hround, hwaiting]

/-- Every run leaves everything owned. -/
theorem Owned.run (h : x.Owned) (turns : List Turn) : (x.run turns).Owned := by
  induction turns generalizing x with
  | nil => exact h
  | cons t turns ih => exact ih (h.step t)

/-! ## Whose turn an entry can go by -/

/-- The socket whose turn it is, or that a push sends to. -/
def actor? (x : Traffic) : Turn → Option String
  | .accept socket _ | .take socket _ | .enrol socket | .tell socket | .disconnect socket
  | .disturb socket _ => some socket
  | .send number index => do
    let p ← x.rounds[number]?
    let e ← p.waiting[index]?
    return e.2.socket
  | .save _ | .push _ | .pushDesign _ => none

/-- A socket takes out its own entry or makes one, and nothing else becomes of the registry. -/
theorem registry_step (x : Traffic) (t : Turn) :
    (x.step t).service.registry = x.service.registry ∨
    (∃ socket, x.actor? t = some socket ∧
      Registry.Left socket x.service.registry (x.step t).service.registry) ∨
    ∃ socket id platform, t = .enrol socket ∧
      (x.step t).service.registry = x.service.registry.register id platform socket := by
  generalize hy : x.step t = y
  have htaken := hy ▸ x.taken_step t
  cases htaken with
  | idle | accept | disturb | save | push | pushDesign => exact Or.inl rfl
  | take text => exact Or.inr (Or.inl ⟨_, rfl, SessionState.left_take _ _ text⟩)
  | enrol => exact Or.inr (Or.inr ⟨_, _, _, rfl, rfl⟩)
  | tell => exact Or.inr (Or.inl ⟨_, rfl, SessionState.left_tell _ _⟩)
  | disconnect => exact Or.inr (Or.inl ⟨_, rfl, SessionState.left_finish _ _ none⟩)
  | send hround hwaiting =>
    exact Or.inr (Or.inl ⟨_, by simp [actor?, hround, hwaiting], left_send hround hwaiting⟩)

/-- An entry goes by a turn of its own socket only, or another socket takes its id. -/
theorem get?_registry_step {id : String} {device : Device}
    (h : Record.get? x.service.registry id = some device) {t : Turn}
    (hactor : x.actor? t ≠ some device.socket) :
    Record.get? (x.step t).service.registry id = some device ∨ ∃ socket platform,
      t = .enrol socket ∧ Record.get? (x.step t).service.registry id = some ⟨platform, socket⟩ := by
  rcases x.registry_step t with
    hsame | ⟨socket, hsocket, hleft⟩ | ⟨socket, other, platform, rfl, hentered⟩
  · exact Or.inl (by rw [hsame, h])
  · refine Or.inl (hleft.get? h fun hown => hactor ?_)
    rw [hsocket, hown]
  · rw [hentered, Registry.get?_register]
    by_cases hid : other = id
    · exact Or.inr ⟨socket, platform, rfl, if_pos hid⟩
    · exact Or.inl (by rw [if_neg hid, h])

/-- No socket has two entries. -/
theorem Owned.nodup_sockets (h : x.Owned) :
    (x.service.registry.map fun e => e.2.socket).Nodup := by
  have hids : x.service.registry.Pairwise fun e f => e.1 ≠ f.1 := List.pairwise_map.mp h.nodup
  refine List.pairwise_map.mpr (hids.imp_of_mem fun {e f} he hf hne hsocket => hne ?_)
  -- both are under the id that the one session goes by
  have hheld := h.held e he
  rw [hsocket, h.held f hf] at hheld
  exact (Session.alive.inj (Option.some.inj hheld)).1.symm

/-- The registry follows the sessions.  Begin with a service that no device is connected to, and let
sockets be opened, take texts, be closed and break, and let pushes begin and send, in any order; what a
service does that handles one thing after the other is one of these (`exists_run_foldl_perform`).  Then no
socket has two entries, an entry is under the id that the session of its socket goes by, and a socket
whose session has ended has none.  And whatever is done next, an entry goes by a turn of its own socket
only: no other socket takes it out by registering anew, by going or by failing to get a push, though one
may take its id for itself. -/
theorem registry_follows_sessions (storage : Storage) (acceptsOverlay : Bool) (now : Stamp)
    (clock : String) (turns : List Turn) :
    let x := (quiet (Service.new storage acceptsOverlay now clock)).run turns
    (x.service.registry.map fun e => e.2.socket).Nodup ∧
    (∀ id device, Record.get? x.service.registry id = some device →
      Record.get? x.service.sessions device.socket = some (.alive id true)) ∧
    (∀ socket fault, Record.get? x.service.sessions socket = some (.ended fault) →
      ∀ e ∈ x.service.registry, e.2.socket ≠ socket) ∧
    ∀ t id device, Record.get? x.service.registry id = some device →
      x.actor? t ≠ some device.socket →
      Record.get? (x.step t).service.registry id = some device ∨ ∃ socket platform,
        t = .enrol socket ∧
          Record.get? (x.step t).service.registry id = some ⟨platform, socket⟩ := by
  intro x
  have hx : x.Owned := (owned_quiet rfl).run turns
  refine ⟨hx.nodup_sockets, fun id device hget => ?_, fun socket fault hended e he hown => ?_,
    fun t id device hget hactor => get?_registry_step hget hactor⟩
  · exact hx.held (id, device) (Record.mem_of_get?_eq_some hget)
  · -- whoever is registered is alive, so an ended session owns nothing
    have hheld := hx.held e he
    rw [hown, hended] at hheld
    cases hheld

/-- A phone connects anew while a push is on its way to the socket that it had before.  The push fails
there, and the phone stays in the registry. -/
theorem connection_anew_outlives_failed_push :
    let connect (socket : String) : List Turn := [.accept socket 0,
      .take socket (Frame.register "ios" "phone"), .enrol socket, .tell socket]
    let tile : List Json := [.obj [("createSurface", .obj [("surfaceId", .str "tile")])]]
    let turns := connect "before" ++ [.push ⟨none, tile⟩] ++ connect "after" ++
      [.disturb "before" true]
    let x := (quiet (Service.new (.shelf []) false ⟨2026, 10, 19, 15, 7⟩ "")).run turns
    Record.get? x.service.registry "phone" = some ⟨"ios", "after"⟩ ∧
      x.actor? (.send 0 0) = some "before" ∧
      Record.get? (x.step (.send 0 0)).service.registry "phone" = some ⟨"ios", "after"⟩ := by
  intro connect tile turns x
  have hbefore : Record.get? x.service.registry "phone" = some ⟨"ios", "after"⟩ := by decide +kernel
  have hactor : x.actor? (.send 0 0) = some "before" := by decide +kernel
  have hx : (quiet (Service.new (.shelf []) false ⟨2026, 10, 19, 15, 7⟩ "")).run turns = x := rfl
  obtain ⟨-, -, -, hnext⟩ :=
    registry_follows_sessions (.shelf []) false ⟨2026, 10, 19, 15, 7⟩ "" turns
  rw [hx] at hnext
  -- from here on what has become of the service is of no interest
  clear_value x
  refine ⟨hbefore, hactor, ?_⟩
  have hother : x.actor? (.send 0 0) ≠ some "after" := by
    rw [hactor]
    decide
  rcases hnext (.send 0 0) "phone" _ hbefore hother with hkept | ⟨_, _, henrol, -⟩
  · exact hkept
  · cases henrol

end Traffic

end UiSurface
