import UiSurface.Proofs.Locality

/-!
# Surfaces do not interfere

A run of messages about many surfaces is, for each of them, the run of the messages about it.  Two stores
are compared by what they show under one id.  A message about another surface changes nothing there; a
message about this one makes the same of it in both stores, with the same outcome, cautions included.
What does not decode is about no surface, and its outcome is the same whatever the store shows.

Main lemmas: `effect_congr` (the outcome of a message depends on its surface alone),
`SameAt.deliver_self` and `SameAt.deliver_other` (one message), `sameAt_deliverAll_filter` (a run),
`surfaces_do_not_interfere`.
-/

namespace UiSurface.Store

/-! ## What a message is about -/

namespace Delivery

/-- The message that comes, if it decodes. -/
def message? : Delivery → Option Message
  | .message m => some m
  | .envelope members => (Message.decodeMembers members).toOption

/-- The surface that a message is about.  What does not decode is about none. -/
def about? (d : Delivery) : Option String := d.message?.map Message.surface

/-- Whether a message is about a surface, or about none. -/
def isAbout (about : Option String) (d : Delivery) : Bool := d.about? == about

end Delivery

/-- A delivery with a message in it is the message. -/
theorem deliver_of_message? (s : Store) {d : Delivery} {m : Message} (h : d.message? = some m) :
    s.deliver d = s.apply m := by
  cases d with
  | message m' =>
    obtain rfl := Option.some.inj h
    rfl
  | envelope members => exact s.applyMembers_of_decode (Fallible.toOption_eq_some_iff.mp h)

/-- What does not decode is refused, and leaves the store as it is. -/
theorem exists_deliver_of_message?_eq_none {d : Delivery} (h : d.message? = none) :
    ∃ fault, ∀ s : Store, s.deliver d =
      (s, .refused none (if s.disposed then .disposed else .undecodable fault)) := by
  cases d with
  | message m => cases h
  | envelope members =>
    cases hdecode : Message.decodeMembers members with
    | ok m => simp [Delivery.message?, hdecode, Except.toOption] at h
    | error fault =>
      refine ⟨fault, fun s => ?_⟩
      cases hs : s.disposed with
      | true => simp [deliver, applyMembers, hs]
      | false => simp [deliver, applyMembers, hs, hdecode]

/-! ## Runs -/

def deliverAll (s : Store) : List Delivery → Store × List Outcome
  | [] => (s, [])
  | d :: ds =>
    let (s, outcome) := s.deliver d
    let (s, outcomes) := s.deliverAll ds
    (s, outcome :: outcomes)

/-- Of the outcomes of a run, those of the messages about a surface. -/
def outcomesAbout (about : Option String) (ds : List Delivery) (outcomes : List Outcome) :
    List Outcome :=
  ((ds.zip outcomes).filter fun e => e.1.isAbout about).map Prod.snd

theorem outcomesAbout_cons (about : Option String) (d : Delivery) (ds : List Delivery)
    (outcome : Outcome) (outcomes : List Outcome) :
    outcomesAbout about (d :: ds) (outcome :: outcomes) =
      if d.isAbout about then outcome :: outcomesAbout about ds outcomes
      else outcomesAbout about ds outcomes := by
  cases h : d.isAbout about <;> simp [outcomesAbout, h]

/-- Two runs that are made of the same streams: for each surface they have the same messages about it,
in the same order.  What does not decode may stand anywhere. -/
def SameStreams (ds es : List Delivery) : Prop :=
  ∀ id, es.filter (Delivery.isAbout (some id)) = ds.filter (Delivery.isAbout (some id))

/-- Messages that are all about one surface make up its stream, and no other. -/
theorem filter_isAbout {ds : List Delivery} {about : Option String}
    (h : ∀ d ∈ ds, d.about? = about) (other : Option String) :
    ds.filter (Delivery.isAbout other) = if about = other then ds else [] := by
  split
  · rename_i hsame
    exact List.filter_eq_self.mpr fun d hd => by simp [Delivery.isAbout, h d hd, hsame]
  · rename_i hother
    exact List.filter_eq_nil_iff.mpr fun d hd => by simp [Delivery.isAbout, h d hd, hother]

/-! ## Two stores at one surface -/

/-- Two stores of the same settings that show the same under an id. -/
structure SameAt (about : Option String) (s t : Store) : Prop where
  settings : SameSettings s t
  surface : about.bind t.surface? = about.bind s.surface?

theorem SameAt.refl (about : Option String) (s : Store) : SameAt about s s := ⟨⟨rfl, rfl⟩, rfl⟩

/-- What is noted of a message, or why it is refused, depends on the surface that it is about and on
nothing else that a store shows. -/
theorem effect_congr {s t : Store} {m : Message} (h : SameAt (some m.surface) s t) :
    (t.effect m).map Prod.snd = (s.effect m).map Prod.snd := by
  obtain ⟨⟨haccepts, -⟩, hsurface⟩ := h
  simp only [Option.bind_some] at hsurface
  -- a message looks at its own surface only, and at whether overlays are accepted
  cases m with
  | createSurface id catalogId sendDataModel tokens => rfl
  | updateComponents id cs =>
    simp only [Message.surface] at hsurface
    simp only [effect, hsurface]
    cases s.surface? id <;> rfl
  | updateDataModel id update =>
    simp only [Message.surface] at hsurface
    simp only [effect, hsurface, haccepts]
    cases s.surface? id with
    | none => rfl
    | some surface =>
      dsimp only
      cases updatedModel s.acceptsOverlay surface.model update <;> rfl
  | deleteSurface id =>
    simp only [Message.surface] at hsurface
    simp only [effect, hsurface]
    cases s.surface? id <;> rfl

/-- What comes of a message is told by its effect on the store. -/
theorem outcome_apply (s : Store) (m : Message) :
    (s.apply m).2 =
      if s.disposed then .refused none .disposed
      else match (s.effect m).map Prod.snd with
        | .error reason => .refused (some m.surface) reason
        | .ok cautions => .accepted m.surface cautions := by
  unfold apply
  split
  · rfl
  · cases s.effect m <;> rfl

/-- What becomes of a surface depends on the surface alone, and on how the store is set up. -/
theorem surface?_apply_congr {s t : Store} {m : Message} (h : SameAt (some m.surface) s t) :
    (t.apply m).1.surface? m.surface = (s.apply m).1.surface? m.surface := by
  obtain ⟨⟨haccepts, hdisposed⟩, hsurface⟩ := h
  simp only [Option.bind_some] at hsurface
  cases hs : s.disposed with
  | true => rw [apply_of_disposed hs, apply_of_disposed (hdisposed.trans hs), hsurface]
  | false =>
    rw [surface?_apply hs, surface?_apply (hdisposed.trans hs), haccepts, hsurface]

/-- A message leaves every other surface as it is. -/
theorem surface?_apply_of_ne (s : Store) {m : Message} {id : String} (h : m.surface ≠ id) :
    (s.apply m).1.surface? id = s.surface? id := by
  cases hs : s.disposed with
  | true => rw [apply_of_disposed hs]
  | false => rw [surface?_apply hs, if_neg h]

/-- A message about the surface has the same outcome in both stores, and they go on to show the same. -/
theorem SameAt.deliver_self {about : Option String} {s t : Store} (h : SameAt about s t)
    {d : Delivery} (hd : d.isAbout about = true) :
    (t.deliver d).2 = (s.deliver d).2 ∧ SameAt about (s.deliver d).1 (t.deliver d).1 := by
  cases hm : d.message? with
  | none =>
    obtain ⟨fault, hdeliver⟩ := exists_deliver_of_message?_eq_none hm
    rw [hdeliver, hdeliver, h.settings.2]
    exact ⟨rfl, h⟩
  | some m =>
    obtain rfl : some m.surface = about := by
      simpa [Delivery.isAbout, Delivery.about?, hm] using hd
    rw [deliver_of_message? s hm, deliver_of_message? t hm]
    have hsettings : SameSettings (s.apply m).1 (t.apply m).1 := by
      obtain ⟨hs, hs'⟩ := s.sameSettings_apply m
      obtain ⟨ht, ht'⟩ := t.sameSettings_apply m
      exact ⟨by rw [ht, hs, h.settings.1], by rw [ht', hs', h.settings.2]⟩
    refine ⟨?_, hsettings, surface?_apply_congr h⟩
    rw [outcome_apply, outcome_apply, effect_congr h, h.settings.2]

/-- A message about another surface changes nothing here. -/
theorem SameAt.deliver_other {about : Option String} {s t : Store} (h : SameAt about s t)
    {d : Delivery} (hd : d.isAbout about = false) : SameAt about (s.deliver d).1 t := by
  have hsettings := s.sameSettings_deliver d
  refine ⟨⟨?_, ?_⟩, ?_⟩
  · rw [hsettings.1, h.settings.1]
  · rw [hsettings.2, h.settings.2]
  · rw [h.surface]
    cases hm : d.message? with
    | none =>
      obtain ⟨fault, hdeliver⟩ := exists_deliver_of_message?_eq_none hm
      rw [hdeliver]
    | some m =>
      rw [deliver_of_message? s hm]
      -- what is for no surface changes none
      cases about with
      | none => rfl
      | some id =>
        have hne : m.surface ≠ id := by simpa [Delivery.isAbout, Delivery.about?, hm] using hd
        exact (s.surface?_apply_of_ne hne).symm

/-- At one surface, a run comes to what the messages about that surface come to, with the same
outcomes. -/
theorem sameAt_deliverAll_filter {about : Option String} {s t : Store} (h : SameAt about s t)
    (ds : List Delivery) :
    outcomesAbout about ds (s.deliverAll ds).2 =
        (t.deliverAll (ds.filter (Delivery.isAbout about))).2 ∧
      SameAt about (s.deliverAll ds).1 (t.deliverAll (ds.filter (Delivery.isAbout about))).1 := by
  -- by the deliveries; the other store is not told of those that are about something else
  induction ds generalizing s t with
  | nil => exact ⟨rfl, h⟩
  | cons d ds ih =>
    cases hd : d.isAbout about with
    | true =>
      obtain ⟨houtcome, hnext⟩ := h.deliver_self hd
      obtain ⟨houtcomes, hlast⟩ := ih hnext
      rw [List.filter_cons_of_pos hd]
      refine ⟨?_, hlast⟩
      simp only [deliverAll, outcomesAbout_cons, hd, if_true, houtcome, houtcomes]
    | false =>
      obtain ⟨houtcomes, hlast⟩ := ih (h.deliver_other hd)
      rw [List.filter_cons_of_neg (by simp [hd])]
      refine ⟨?_, hlast⟩
      simp only [deliverAll, outcomesAbout_cons, hd, Bool.false_eq_true, if_false, houtcomes]

/-- Messages that do not decode are all refused, each as it would be alone. -/
theorem deliverAll_of_about?_eq_none (s : Store) {ds : List Delivery}
    (h : ∀ d ∈ ds, d.about? = none) :
    s.deliverAll ds = (s, ds.map fun d => (s.deliver d).2) := by
  induction ds with
  | nil => rfl
  | cons d ds ih =>
    obtain ⟨hd, hrest⟩ := List.forall_mem_cons.mp h
    obtain ⟨fault, hdeliver⟩ := exists_deliver_of_message?_eq_none (Option.map_eq_none_iff.mp hd)
    simp only [deliverAll, hdeliver s, ih hrest, List.map_cons]

/-- Surfaces do not interfere.  After any run of messages, decoded or in their envelopes, each surface is
what the messages about it alone make of it, absent or there, and these messages have the same outcomes
as alone; what does not decode is refused as it would be at the start.  So two runs that are made of the
same streams leave the same surfaces, and each message has the same outcome in both.  This holds of
every store. -/
theorem surfaces_do_not_interfere (s : Store) (ds : List Delivery) :
    (∀ id, (s.deliverAll ds).1.surface? id =
      (s.deliverAll (ds.filter (Delivery.isAbout (some id)))).1.surface? id) ∧
    (∀ id, outcomesAbout (some id) ds (s.deliverAll ds).2 =
      (s.deliverAll (ds.filter (Delivery.isAbout (some id)))).2) ∧
    outcomesAbout none ds (s.deliverAll ds).2 =
      (ds.filter (Delivery.isAbout none)).map (fun d => (s.deliver d).2) ∧
    ∀ es, SameStreams ds es →
      (∀ id, (s.deliverAll es).1.surface? id = (s.deliverAll ds).1.surface? id) ∧
      ∀ id, outcomesAbout (some id) es (s.deliverAll es).2 =
        outcomesAbout (some id) ds (s.deliverAll ds).2 := by
  have hsurface : ∀ (es : List Delivery) (id : String), (s.deliverAll es).1.surface? id =
      (s.deliverAll (es.filter (Delivery.isAbout (some id)))).1.surface? id :=
    fun es id => (sameAt_deliverAll_filter (SameAt.refl (some id) s) es).2.surface.symm
  have houtcomes : ∀ (es : List Delivery) (about : Option String),
      outcomesAbout about es (s.deliverAll es).2 =
        (s.deliverAll (es.filter (Delivery.isAbout about))).2 :=
    fun es about => (sameAt_deliverAll_filter (SameAt.refl about s) es).1
  refine ⟨hsurface ds, fun id => houtcomes ds (some id), ?_, fun es hes => ⟨fun id => ?_, fun id => ?_⟩⟩
  · have hnone : ∀ d ∈ ds.filter (Delivery.isAbout none), d.about? = none :=
      fun d hd => beq_iff_eq.mp (List.mem_filter.mp hd).2
    rw [houtcomes, s.deliverAll_of_about?_eq_none hnone]
  · rw [hsurface es, hsurface ds, hes]
  · rw [houtcomes es, houtcomes ds, hes]

/-- Two tiles, of which one is made, deleted and told to change again while the other is made: either
stream may come first, with envelopes that do not decode at any place. -/
theorem two_tiles_do_not_interfere :
    let left : List Delivery := [.message (.createSurface "left" .null .null []),
      .message (.deleteSurface "left"), .message (.updateComponents "left" [])]
    let right : List Delivery := [.envelope [("createSurface", .obj [("surfaceId", .str "right")])],
      .envelope [("updateDataModel", .obj [("surfaceId", .str "right"), ("path", .str "/x"),
        ("value", .str "1")])]]
    let note : List Delivery := [.envelope [("note", .null)]]
    SameStreams (left ++ right ++ note) (note ++ right ++ left) ∧
      (∀ id, ((empty false).deliverAll (note ++ right ++ left)).1.surface? id =
        ((empty false).deliverAll (left ++ right ++ note)).1.surface? id) ∧
      ∀ id,
        outcomesAbout (some id) (note ++ right ++ left)
            ((empty false).deliverAll (note ++ right ++ left)).2 =
          outcomesAbout (some id) (left ++ right ++ note)
            ((empty false).deliverAll (left ++ right ++ note)).2 := by
  intro left right note
  have hleft : ∀ d ∈ left, d.about? = some "left" := by decide +kernel
  have hright : ∀ d ∈ right, d.about? = some "right" := by decide +kernel
  have hnote : ∀ d ∈ note, d.about? = none := by decide +kernel
  have hstreams : SameStreams (left ++ right ++ note) (note ++ right ++ left) := by
    intro id
    simp only [List.filter_append, filter_isAbout hleft, filter_isAbout hright, filter_isAbout hnote]
    by_cases hid : id = "left"
    · subst hid
      rfl
    · simp [Ne.symm hid]
  exact ⟨hstreams,
    (surfaces_do_not_interfere (empty false) (left ++ right ++ note)).2.2.2 _ hstreams⟩

end UiSurface.Store
