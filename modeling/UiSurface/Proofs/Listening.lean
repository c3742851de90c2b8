import UiSurface.Proofs.Independence

/-!
# Listening to a store

Listeners come and go between messages, and at each call a listener may note, fail, or cancel its own
subscription, as it decides anew.  Nobody is missed on that account and nobody is called twice: the
listeners of a message are those who are subscribed as it comes.  What a listener is told over a run
follows from its own subscription and from the messages; the other listeners play no part in it, and
none of them plays a part in what becomes of the store.

Main lemmas: `notify_eq_told` (the calls about one change, and who listens afterwards),
`deliver_unattended` (a message does the same with nobody listening), `runEvents_unattended`,
`calls_happen` and `mem_audience_happen` (one event), `calls_runEvents`, `distinct_of_nodup` (different
names will do for nobody to listen twice at a time), `listeners_hear_and_do_not_disturb`.
-/

namespace UiSurface.Store

/-! ## Calls about one message -/

/-- The call of a listener about a change. -/
def told (s : Store) (kind : MessageKind) (id : String) (name : String) : Call :=
  ⟨name, kind, id, Record.has s.live id⟩

/-- A listener that stays is told, and nothing else happens. -/
theorem call_of_stays (s : Store) (kind : MessageKind) (id : String) {l : Listener}
    (h : l.reaction ≠ .cancel) :
    call kind id s l = { s with calls := s.calls ++ [s.told kind id l.name] } := by
  unfold call
  cases hreaction : l.reaction with
  | cancel => exact absurd hreaction h
  | none | fail => rfl

/-- A listener that cancels is told, and listens no more. -/
theorem call_of_cancels (s : Store) (kind : MessageKind) (id : String) {l : Listener}
    (h : l.reaction = .cancel) :
    call kind id s l = { s with
      listeners := s.listeners.erase l
      calls := s.calls ++ [s.told kind id l.name] } := by
  unfold call
  rw [h]
  rfl

/-- The listeners that are still to be called, behind those who were called and stay. -/
theorem foldl_call {s : Store} (kind : MessageKind) (id : String) {kept ls : List Listener}
    (hlisteners : s.listeners = kept ++ ls) (hkept : ∀ l ∈ kept, l.reaction ≠ .cancel) :
    ls.foldl (call kind id) s = { s with
      listeners := kept ++ ls.filter fun l => l.reaction != .cancel
      calls := s.calls ++ (ls.map Listener.name).map (s.told kind id) } := by
  induction ls generalizing s kept with
  | nil => simp [← hlisteners]
  | cons l ls ih =>
    rw [List.foldl_cons]
    by_cases hl : l.reaction = .cancel
    · -- it is not among those who stay, so it is the one that is taken away
      have hnot : l ∉ kept := fun hmem => hkept l hmem hl
      have herase : s.listeners.erase l = kept ++ ls := by
        rw [hlisteners, List.erase_append_right _ hnot, List.erase_cons_head]
      rw [s.call_of_cancels kind id hl, ih herase hkept]
      simp [hl, told]
    · have hstay : ∀ k ∈ kept ++ [l], k.reaction ≠ .cancel := by
        intro k hk
        rcases List.mem_append.mp hk with hk | hk
        · exact hkept k hk
        · rwa [List.mem_singleton.mp hk]
      rw [s.call_of_stays kind id hl, ih (by simp [hlisteners]) hstay]
      simp [hl, told]

/-- Each listener is called once, in order; afterwards those listen who did not cancel. -/
theorem notify_eq_told (s : Store) (kind : MessageKind) (id : String) :
    s.notify kind id = { s with
      listeners := s.listeners.filter fun l => l.reaction != .cancel
      calls := s.calls ++ (s.listeners.map Listener.name).map (s.told kind id) } := by
  have hall := foldl_call (s := s) kind id (List.nil_append _).symm nofun
  simpa [notify] using hall

/-! ## Nobody listening -/

/-- A store with nobody listening, of which nobody was told anything. -/
def unattended (s : Store) : Store := { s with listeners := [], calls := [] }

/-- Telling the listeners changes nothing but them and their calls. -/
theorem unattended_notify (s : Store) (kind : MessageKind) (id : String) :
    (s.notify kind id).unattended = s.unattended := by
  rw [notify_eq_told]
  rfl

/-- On the way through the listeners, the store is the same to each. -/
theorem unattended_calls (s : Store) (kind : MessageKind) (id : String) (called : List Listener) :
    (called.foldl (call kind id) s).unattended = s.unattended := by
  induction called generalizing s with
  | nil => rfl
  | cons l called ih =>
    have hcall : (call kind id s l).unattended = s.unattended := by
      unfold call
      cases l.reaction <;> rfl
    rw [List.foldl_cons, ih, hcall]

theorem place_unattended (s : Store) (surface : Surface) :
    s.unattended.place surface = (s.place surface).unattended := by
  simp only [place, unattended]
  cases Record.get? s.live surface.id <;> rfl

theorem modify_unattended (s : Store) (id : String) (f : Surface → Surface) :
    s.unattended.modify id f = (s.modify id f).unattended := by
  simp only [modify, unattended]
  cases Record.get? s.live id <;> rfl

theorem remove_unattended (s : Store) (id : String) :
    s.unattended.remove id = (s.remove id).unattended := by
  simp only [remove, unattended]
  cases Record.get? s.live id <;> rfl

/-- What a message makes of a store has nothing to do with who listens. -/
theorem effect_unattended (s : Store) (m : Message) :
    s.unattended.effect m = (s.effect m).map fun r => (r.1.unattended, r.2) := by
  have hsurface : ∀ id, s.unattended.surface? id = s.surface? id := fun _ => rfl
  -- who listens is written by no case, and read by none
  cases m with
  | createSurface id catalogId sendDataModel tokens =>
    simp only [effect, place_unattended, Except.map]
  | updateComponents id components =>
    simp only [effect, hsurface, modify_unattended]
    cases s.surface? id <;> rfl
  | updateDataModel id update =>
    simp only [effect, hsurface, modify_unattended]
    cases s.surface? id with
    | none => rfl
    | some surface =>
      have haccepts : s.unattended.acceptsOverlay = s.acceptsOverlay := rfl
      simp only [haccepts]
      cases updatedModel s.acceptsOverlay surface.model update <;> rfl
  | deleteSurface id =>
    simp only [effect, hsurface, remove_unattended]
    cases s.surface? id <;> rfl

theorem apply_unattended (s : Store) (m : Message) :
    s.unattended.apply m = ((s.apply m).1.unattended, (s.apply m).2) := by
  have hdisposed : s.unattended.disposed = s.disposed := rfl
  simp only [apply, hdisposed, effect_unattended]
  cases s.disposed with
  | true => rfl
  | false =>
    cases s.effect m with
    | error reason => rfl
    | ok r => simp only [Except.map, Bool.false_eq_true, if_false, unattended_notify]; rfl

/-- A message has the same outcome and does the same to a store with nobody listening. -/
theorem deliver_unattended (s : Store) (d : Delivery) :
    s.unattended.deliver d = ((s.deliver d).1.unattended, (s.deliver d).2) := by
  cases hm : d.message? with
  | some m => rw [deliver_of_message? _ hm, deliver_of_message? s hm, apply_unattended]
  | none =>
    obtain ⟨fault, hrefused⟩ := exists_deliver_of_message?_eq_none hm
    rw [hrefused, hrefused]
    rfl

/-- An effect leaves alone who listens and what was called. -/
theorem listeners_calls_effect {s t : Store} {m : Message} {cautions : List Caution}
    (h : s.effect m = .ok (t, cautions)) : t.listeners = s.listeners ∧ t.calls = s.calls := by
  rcases effect_cases h with ⟨surface, -, rfl, -⟩ | ⟨surface, updated, -, rfl, -⟩ | ⟨rfl, -⟩
  · cases hlive : Record.get? s.live surface.id <;> simp [place, hlive, retire]
  · cases hlive : Record.get? s.live m.surface <;> simp [modify, hlive]
  · cases hlive : Record.get? s.live m.surface <;> simp [remove, hlive, retire]

/-- A message is refused and the store stays, or it is accepted, and those who listened before it are
called about what it made of the store. -/
theorem deliver_cases_notify (s : Store) (d : Delivery) :
    ((s.deliver d).2.isAccepted = false ∧ (s.deliver d).1 = s) ∨
    ∃ (m : Message) (changed : Store), d.message? = some m ∧ (s.deliver d).2.isAccepted = true ∧
      (s.deliver d).1 = changed.notify m.kind m.surface ∧
      changed.listeners = s.listeners ∧ changed.calls = s.calls := by
  cases hm : d.message? with
  | none =>
    obtain ⟨fault, hrefused⟩ := exists_deliver_of_message?_eq_none hm
    left
    rw [hrefused]
    exact ⟨rfl, rfl⟩
  | some m =>
    rw [deliver_of_message? s hm]
    -- the listeners are called once the change is made, and only then
    rcases s.apply_cases m with ⟨about, reason, hrefused⟩ | ⟨changed, cautions, -, heffect, hok⟩
    · left
      rw [hrefused]
      exact ⟨rfl, rfl⟩
    · right
      rw [hok]
      exact ⟨m, changed, rfl, rfl, rfl, listeners_calls_effect heffect⟩

/-- What a message that is accepted makes of a store is there when the listeners are called: whoever
was called before, the store is what it is in the end, but for listeners and calls. -/
def SeenByAll (s : Store) (d : Delivery) : Prop :=
  (s.deliver d).2.isAccepted = true → ∃ m changed, d.message? = some m ∧
    (s.deliver d).1 = s.listeners.foldl (call m.kind m.surface) changed ∧
    ∀ called, called <+: s.listeners →
      (called.foldl (call m.kind m.surface) changed).unattended = (s.deliver d).1.unattended

/-- What is accepted is there before the first listener is called. -/
theorem seenByAll (s : Store) (d : Delivery) : s.SeenByAll d := by
  intro haccepted
  rcases s.deliver_cases_notify d with ⟨hrefused, -⟩ | ⟨m, changed, hm, -, hdeliver, hsame, -⟩
  · simp [hrefused] at haccepted
  · refine ⟨m, changed, hm, ?_, fun called _ => ?_⟩
    · rw [hdeliver, notify, hsame]
    · rw [hdeliver, unattended_notify, unattended_calls]

/-! ## Runs -/

/-- What each listener, by name, does after its next call. -/
abbrev Mood := String → Reaction

/-- The store with its listeners in a mood. -/
def inMood (s : Store) (mood : Mood) : Store :=
  { s with listeners := s.listeners.map fun l => { l with reaction := mood l.name } }

/-- Takes away the listener of a name, if there is one. -/
def unsubscribe (s : Store) (name : String) : Store :=
  match s.listeners.find? fun l => l.name == name with
  | some l => s.cancel l
  | none => s

/-- Somebody begins or ceases to listen, or a message comes, and each listener that is called about it
does as it then likes. -/
inductive Event where
  | subscribe (l : Listener)
  | unsubscribe (name : String)
  | deliver (mood : Mood) (d : Delivery)

/-- The message that comes, if one does. -/
def Event.delivery? : Event → Option Delivery
  | .deliver _ d => some d
  | .subscribe _ | .unsubscribe _ => none

/-- The store after an event, with the outcome of the message, if one came. -/
def happen (s : Store) : Event → Store × List Outcome
  | .subscribe l => (s.subscribe l, [])
  | .unsubscribe name => (s.unsubscribe name, [])
  | .deliver mood d =>
    let (s, outcome) := (s.inMood mood).deliver d
    (s, [outcome])

def runEvents (s : Store) : List Event → Store × List Outcome
  | [] => (s, [])
  | e :: es =>
    let (s, outcome) := s.happen e
    let (s, outcomes) := s.runEvents es
    (s, outcome ++ outcomes)

/-- The store after an event with nobody listening. -/
def quietly (s : Store) : Event → Store
  | .deliver _ d => (s.deliver d).1
  | .subscribe _ | .unsubscribe _ => s

/-- A delivery comes to the same whatever mood the listeners are in. -/
theorem deliver_inMood (s : Store) (mood : Mood) (d : Delivery) :
    s.unattended.deliver d =
      (((s.inMood mood).deliver d).1.unattended, ((s.inMood mood).deliver d).2) :=
  (s.inMood mood).deliver_unattended d

/-- An event comes to the same with nobody listening. -/
theorem unattended_happen (s : Store) (e : Event) :
    (s.happen e).1.unattended = s.unattended.quietly e := by
  cases e with
  | subscribe l => rfl
  | unsubscribe name =>
    simp only [happen, unsubscribe]
    split <;> rfl
  | deliver mood d => simp only [happen, quietly, deliver_inMood s mood d]

/-- Listeners do nothing to the store, nor to the outcomes. -/
theorem runEvents_unattended (s : Store) (es : List Event) :
    (s.runEvents es).2 = (s.unattended.deliverAll (es.filterMap Event.delivery?)).2 ∧
    (s.runEvents es).1.unattended =
      (s.unattended.deliverAll (es.filterMap Event.delivery?)).1 := by
  -- by the events; those who come and go leave nothing behind in a store without listeners
  induction es generalizing s with
  | nil => exact ⟨rfl, rfl⟩
  | cons e es ih =>
    obtain ⟨houtcomes, hstore⟩ := ih (s.happen e).1
    rw [unattended_happen] at houtcomes hstore
    cases e with
    | subscribe l => exact ⟨houtcomes, hstore⟩
    | unsubscribe name => exact ⟨houtcomes, hstore⟩
    | deliver mood d =>
      have houtcome : (s.happen (.deliver mood d)).2 = [(s.unattended.deliver d).2] := by
        rw [deliver_inMood s mood d]
        rfl
      refine ⟨?_, hstore⟩
      simp only [runEvents, houtcome, houtcomes]
      rfl

/-! ## One listener -/

/-- The names of those who listen, in order. -/
def audience (s : Store) : List String := s.listeners.map Listener.name

/-- At no time of a run do two of those who listen have one name. -/
def Distinct (s : Store) (es : List Event) : Prop :=
  ∀ earlier, earlier <+: es → (s.runEvents earlier).1.audience.Nodup

theorem Distinct.head {s : Store} {e : Event} {es : List Event} (h : Distinct s (e :: es)) :
    s.audience.Nodup := h [] List.nil_prefix

/-- Names that are never shared are never shared later either. -/
theorem Distinct.tail {s : Store} {e : Event} {es : List Event} (h : Distinct s (e :: es)) :
    Distinct (s.happen e).1 es :=
  fun earlier hprefix => h (e :: earlier) ((List.prefix_cons_inj e).mpr hprefix)

/-- Who cancels is the only one to leave. -/
theorem audience_unsubscribe (s : Store) (name : String) :
    (s.unsubscribe name).audience = s.audience.erase name := by
  unfold unsubscribe audience
  cases hfind : s.listeners.find? fun l => l.name == name with
  | none =>
    have habsent : name ∉ s.listeners.map Listener.name := by
      simpa [List.find?_eq_none] using hfind
    exact (List.erase_of_not_mem habsent).symm
  | some l =>
    obtain ⟨hname, before, after, hsplit, hbefore⟩ := List.find?_eq_some_iff_append.mp hfind
    obtain rfl : l.name = name := by simpa using hname
    have hl : l ∉ before := fun hmem => by simpa using hbefore l hmem
    have hlname : l.name ∉ before.map Listener.name := by simpa using hbefore
    simp only [cancel, hsplit, List.map_append, List.map_cons]
    rw [List.erase_append_right _ hl, List.erase_cons_head, List.erase_append_right _ hlname,
      List.erase_cons_head, List.map_append]

theorem audience_inMood (s : Store) (mood : Mood) : (s.inMood mood).audience = s.audience := by
  simp [audience, inMood]

/-- After a message is accepted, those listen who listened before it and did not cancel. -/
theorem audience_deliver (s : Store) (mood : Mood) (d : Delivery) :
    ((s.inMood mood).deliver d).1.audience = s.audience.filter fun name =>
      !((s.unattended.deliver d).2.isAccepted && mood name == .cancel) := by
  rw [deliver_inMood s mood d]
  rcases (s.inMood mood).deliver_cases_notify d with
    ⟨hrefused, hdeliver⟩ | ⟨m, changed, -, haccepted, hdeliver, hlisteners, -⟩
  · simp only [hdeliver, hrefused, audience_inMood, Bool.false_and, Bool.not_false]
    exact (List.filter_eq_self.mpr fun _ _ => rfl).symm
  · rw [hdeliver, haccepted, notify_eq_told]
    simp [audience, hlisteners, inMood, List.filter_map, Function.comp_def, bne]

/-- Whether the listener of a name listens after an event.  Of the store it matters only what becomes
of it with nobody listening, and of the moods only the listener's own. -/
def listensAfter (s : Store) (name : String) (listens : Bool) : Event → Bool
  | .subscribe l => listens || name == l.name
  | .unsubscribe other => name != other && listens
  | .deliver mood d => listens && !((s.deliver d).2.isAccepted && mood name == .cancel)

/-- What there is to tell a listener about an event: one call about a message that is accepted. -/
def news (s : Store) (name : String) : Event → List Call
  | .deliver _ d =>
    if (s.deliver d).2.isAccepted then
      d.message?.toList.map fun m => (s.deliver d).1.told m.kind m.surface name
    else []
  | .subscribe _ | .unsubscribe _ => []

/-- What a listener is told over a run: the news of those events before which it listens. -/
def hears (s : Store) (name : String) (listens : Bool) : List Event → List Call
  | [] => []
  | e :: es =>
    (if listens then s.news name e else []) ++
      (s.quietly e).hears name (s.listensAfter name listens e) es

/-- Who listens after an event. -/
theorem mem_audience_happen {s : Store} (h : s.audience.Nodup) (name : String) (e : Event) :
    name ∈ (s.happen e).1.audience ↔
      s.unattended.listensAfter name (decide (name ∈ s.audience)) e = true := by
  cases e with
  | subscribe l =>
    simp [happen, subscribe, audience, listensAfter]
  | unsubscribe other =>
    simp only [happen, audience_unsubscribe, h.mem_erase_iff, listensAfter]
    simp
  | deliver mood d =>
    simp only [happen, audience_deliver, List.mem_filter, listensAfter]
    simp

/-- Who listens before an event is told the news of it, one after the other. -/
theorem calls_happen (s : Store) (e : Event) :
    (s.happen e).1.calls = s.calls ++ s.audience.flatMap fun name => s.unattended.news name e := by
  cases e with
  | subscribe l => simp [happen, subscribe, news]
  | unsubscribe name =>
    simp only [happen, unsubscribe, news]
    split <;> simp [cancel]
  | deliver mood d =>
    simp only [happen, news, deliver_inMood s mood d]
    -- a refusal is told to nobody, anything else to each who listens
    rcases (s.inMood mood).deliver_cases_notify d with
      ⟨hrefused, hdeliver⟩ | ⟨m, changed, hm, haccepted, hdeliver, hlisteners, hcalls⟩
    · simp only [hdeliver, hrefused]
      simp [inMood]
    · have hnames : changed.listeners.map Listener.name = s.audience := by
        rw [hlisteners]
        exact s.audience_inMood mood
      simp only [hdeliver, haccepted, hm, notify_eq_told, hnames, hcalls, List.map_eq_flatMap]
      rfl

/-- Of the news that all are told, each has its own. -/
theorem filter_flatMap_news (s : Store) (e : Event) (name : String) {names : List String}
    (h : names.Nodup) :
    (names.flatMap fun other => s.news other e).filter (fun c => c.listener == name) =
      if name ∈ names then s.news name e else [] := by
  -- news for one listener carry its name
  have hnews : ∀ other, (s.news other e).filter (fun c => c.listener == name) =
      if other = name then s.news other e else [] := by
    intro other
    cases e with
    | subscribe l => simp [news]
    | unsubscribe unsubscribed => simp [news]
    | deliver mood d =>
      simp only [news]
      split
      · cases d.message? <;> simp [told, List.filter_cons]
      · simp
  induction names with
  | nil => rfl
  | cons other names ih =>
    obtain ⟨hother, hrest⟩ := List.nodup_cons.mp h
    rw [List.flatMap_cons, List.filter_append, hnews, ih hrest]
    by_cases hname : other = name
    · subst hname
      simp [hother]
    · simp [hname, Ne.symm hname]

/-- What a listener is told over a run. -/
theorem calls_runEvents {s : Store} {es : List Event} (h : Distinct s es) (name : String) :
    (s.runEvents es).1.calls.filter (fun c => c.listener == name) =
      s.calls.filter (fun c => c.listener == name) ++
        s.unattended.hears name (decide (name ∈ s.audience)) es := by
  induction es generalizing s with
  | nil => simp [runEvents, hears]
  | cons e es ih =>
    have hlistens : decide (name ∈ (s.happen e).1.audience) =
        s.unattended.listensAfter name (decide (name ∈ s.audience)) e := by
      rw [Bool.eq_iff_iff, decide_eq_true_iff]
      exact mem_audience_happen h.head name e
    have hcalls : (s.happen e).1.calls.filter (fun c => c.listener == name) =
        s.calls.filter (fun c => c.listener == name) ++
          if name ∈ s.audience then s.unattended.news name e else [] := by
      rw [calls_happen, List.filter_append, filter_flatMap_news _ _ _ h.head]
    have hrest := ih h.tail
    rw [hlistens, unattended_happen, hcalls] at hrest
    simpa [runEvents, hears] using hrest

def Event.subscriber? : Event → Option String
  | .subscribe l => some l.name
  | .unsubscribe _ | .deliver .. => none

/-- Nobody listens twice at a time where all who listen, and all who will subscribe, have different
names. -/
theorem distinct_of_nodup {s : Store} {es : List Event}
    (h : (s.audience ++ es.filterMap Event.subscriber?).Nodup) : Distinct s es := by
  induction es generalizing s with
  | nil =>
    intro earlier hprefix
    obtain rfl := List.prefix_nil.mp hprefix
    simpa [runEvents] using h
  | cons e es ih =>
    intro earlier hprefix
    cases earlier with
    | nil => exact (List.nodup_append.mp h).1
    | cons first earlier =>
      obtain ⟨rfl, hearlier⟩ := List.cons_prefix_cons.mp hprefix
      -- those who cease to listen, and those who cancel, are names fewer
      have hnext : ((s.happen first).1.audience ++ es.filterMap Event.subscriber?).Nodup := by
        cases first with
        | subscribe l => simpa [happen, subscribe, audience, Event.subscriber?] using h
        | unsubscribe name =>
          simp only [happen, audience_unsubscribe]
          exact h.sublist (List.Sublist.append_right List.erase_sublist _)
        | deliver mood d =>
          simp only [happen, audience_deliver]
          exact h.sublist (List.Sublist.append_right List.filter_sublist _)
      exact ih hnext earlier hearlier

/-! ## Listeners and the store -/

/-- Listeners hear of what happens and do not disturb it.  The outcomes of a run and the store it leaves
are those of the same messages with nobody listening.  What a message that is accepted makes of the store
is there at each call about it.  While nobody listens twice at a time, each listener is called once about
each message that is accepted while it listens, in the order of these messages, with the kind and the
surface of each, and about no other: what it is told follows from the messages, from its own
subscription, and from what it does itself at each call, whatever the others do. -/
theorem listeners_hear_and_do_not_disturb (s : Store) (es : List Event) :
    (s.runEvents es).2 = (s.unattended.deliverAll (es.filterMap Event.delivery?)).2 ∧
    (s.runEvents es).1.unattended =
      (s.unattended.deliverAll (es.filterMap Event.delivery?)).1 ∧
    (∀ earlier mood d later, es = earlier ++ .deliver mood d :: later →
      ((s.runEvents earlier).1.inMood mood).SeenByAll d) ∧
    (Distinct s es → ∀ name,
      (s.runEvents es).1.calls.filter (fun c => c.listener == name) =
        s.calls.filter (fun c => c.listener == name) ++
          s.unattended.hears name (decide (name ∈ s.audience)) es) := by
  obtain ⟨houtcomes, hstore⟩ := s.runEvents_unattended es
  exact ⟨houtcomes, hstore, fun _ _ d _ _ => seenByAll _ d, fun h name => calls_runEvents h name⟩

/-- A guest who comes, goes and comes again, beside one who fails and one who cancels at its second
call: both stay out of what the guest is told, and the message that is refused is told to nobody. -/
theorem guest_is_told_while_it_listens :
    let calm : Mood := fun _ => .none
    let cross : Mood := fun name => if name = "critic" then .fail else .none
    let tired : Mood := fun name => if name = "clerk" then .cancel else .none
    let es : List Event := [
      .subscribe ⟨0, "critic", .none⟩, .subscribe ⟨1, "clerk", .none⟩,
      .subscribe ⟨2, "guest", .none⟩,
      .deliver cross (.message (.createSurface "tile" .null .null [])),
      .deliver tired (.envelope [("note", .null)]),
      .unsubscribe "guest",
      .deliver tired (.message (.updateComponents "tile" [])),
      .subscribe ⟨2, "guest", .none⟩,
      .deliver calm (.message (.deleteSurface "tile"))]
    Distinct (empty false) es ∧
      ((empty false).runEvents es).1.calls.filter (fun c => c.listener == "guest") =
        [⟨"guest", .createSurface, "tile", true⟩, ⟨"guest", .deleteSurface, "tile", false⟩] ∧
      ((empty false).runEvents es).1.calls.filter (fun c => c.listener == "clerk") =
        [⟨"clerk", .createSurface, "tile", true⟩, ⟨"clerk", .updateComponents, "tile", true⟩] ∧
      ((empty false).runEvents es).2.map Outcome.isAccepted = [true, false, true, true] := by
  intro calm cross tired es
  have hdistinct : Distinct (empty false) es := by
    have htakes : ∀ n ∈ List.range 10,
        ((empty false).runEvents (es.take n)).1.audience.Nodup := by decide +kernel
    intro earlier hprefix
    rw [List.prefix_iff_eq_take.mp hprefix]
    exact htakes _ (List.mem_range.mpr (Nat.lt_succ_of_le hprefix.length_le))
  obtain ⟨houtcomes, -, -, htold⟩ := listeners_hear_and_do_not_disturb (empty false) es
  refine ⟨hdistinct, ?_, ?_, ?_⟩
  · rw [htold hdistinct "guest"]
    decide +kernel
  · rw [htold hdistinct "clerk"]
    decide +kernel
  · rw [houtcomes]
    decide +kernel

end UiSurface.Store
