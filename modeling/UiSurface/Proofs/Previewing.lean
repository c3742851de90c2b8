import UiSurface.Proofs.Handles
import UiSurface.Proofs.Keeping
import UiSurface.Proofs.OtherSurfaces

/-!
# A saved design can be previewed

What was saved stays what it was when it was judged: storage keeps accepted designs, each under its id,
through every further attempt to save.  An accepted design folds into a store with one surface, its own.
So whoever asks for the preview or the bindings of a saved design is not told that there is none, or
that its batch is refused.

Main lemmas: `Design.Accepted.exists_only_surface` (what an accepted design folds to),
`Service.Saved.attemptAll` (what attempts to save preserve), `Service.saved_designs_are_previewable`.
-/

namespace UiSurface

/-! ## What a design folds to -/

/-- Messages that are delivered one after the other are applied. -/
theorem Store.run_messages (s : Store) (ms : List Message) :
    s.run (ms.map fun m => .deliver (.message m)) = (s.applyAll ms).1 := by
  induction ms generalizing s with
  | nil => rfl
  | cons m ms ih => exact ih (s.apply m).1

/-- A list that has nothing but one value, and that once. -/
theorem eq_singleton_of_nodup {α : Type} {as : List α} {a : α} (h : as.Nodup) (ha : a ∈ as)
    (hall : ∀ b ∈ as, b = a) : as = [a] := by
  cases as with
  | nil => cases ha
  | cons b rest =>
    obtain rfl := hall b List.mem_cons_self
    cases rest with
    | nil => rfl
    | cons c rest =>
      obtain rfl := hall c (by simp)
      simp at h

namespace Design

/-- An accepted design folds into an empty store that then has one surface, that of the design. -/
theorem Accepted.exists_only_surface {acceptsOverlay : Bool} {d : Design}
    (h : d.Accepted acceptsOverlay) :
    ∃ store surface, foldBatch acceptsOverlay d.batch = .ok store ∧ store.ids = [d.id] ∧
      store.surface? d.id = some surface ∧ surface.id = d.id ∧
      d.fold acceptsOverlay = .ok surface := by
  obtain ⟨hsound, -, ms, preview, hms, -, hpreview, hfold⟩ := h.exists_fold
  obtain ⟨vs, taken, hvs, htaken, hstore⟩ :=
    foldBatch_eq_of_sound acceptsOverlay (hasStructural_of_eq_nil hsound)
  obtain rfl := Json.arr.inj hvs
  obtain rfl : taken = ms := Except.ok.inj (htaken.symm.trans hms)
  have htidy : Store.Tidy ((Store.empty acceptsOverlay).applyAll taken).1 := by
    rw [← Store.run_messages]
    exact Store.tidy_run (Store.tidy_empty acceptsOverlay) _
  obtain ⟨x, hx, rfl⟩ := Option.map_eq_some_iff.mp hpreview
  refine ⟨_, x.surface, hstore, ?_, hpreview, htidy.keyed _ (Record.mem_of_get?_eq_some hx), hfold⟩
  refine eq_singleton_of_nodup htidy.nodup
    (Record.mem_keys_of_mem (Record.mem_of_get?_eq_some hx)) fun id hid => ?_
  -- whatever is there was created, for nothing was there before
  obtain ⟨y, hy⟩ := Option.isSome_iff_exists.mp ((Record.has_iff_mem_keys _ _).mpr hid)
  by_contra hne
  obtain ⟨z, hz, -⟩ := Store.exists_get?_live_of_applyAll
    (fun m hm hkind => h.surface_of_create hms hm hkind ▸ Ne.symm hne) hy
  cases hz

end Design

/-! ## Attempts to save -/

/-- An attempt to save: a request, or a body that one is still to be read from. -/
inductive SaveAttempt where
  | request (request : Design.SaveRequest)
  | body (text : String)

/-- The request of an attempt, if its body can be read. -/
def SaveAttempt.request? : SaveAttempt → Option Design.SaveRequest
  | .request r => some r
  | .body text => (Body.save text).toOption

namespace Service

/-- The service after an attempt to save. -/
def attempt (s : Service) : SaveAttempt → Service
  | .request request => (s.saveDesign request).1
  | .body text => (s.post .designs text).1

def attemptAll (s : Service) (attempts : List SaveAttempt) : Service := attempts.foldl attempt s

/-- An attempt has a request that passes the gate. -/
def Passes (s : Service) (a : SaveAttempt) (request : Design.SaveRequest) : Prop :=
  a.request? = some request ∧ Design.saveProblems s.acceptsOverlay request = .ok []

/-- A body that cannot be read leaves the service as it is; any other is the request that is read. -/
theorem attempt_eq (s : Service) (a : SaveAttempt) :
    s.attempt a = match a.request? with
      | some request => (s.saveDesign request).1
      | none => s := by
  cases a with
  | request request => rfl
  | body text =>
    simp only [attempt, post, SaveAttempt.request?]
    cases Body.save text <;> rfl

/-- A service that keeps a record of accepted designs, each under its id. -/
structure Saved (s : Service) (r : Record Design) : Prop where
  keeps : s.storage.Keeps r
  accepted : ∀ e ∈ r, e.2.Accepted s.acceptsOverlay

/-- What a service was set up with, and what saving leaves as it is. -/
def SameSetup (s t : Service) : Prop :=
  t.acceptsOverlay = s.acceptsOverlay ∧ t.storage.isFolder = s.storage.isFolder

/-- A design that passes the gate is kept under its id, and the others stay. -/
theorem Saved.saveDesign {s : Service} {r : Record Design} (h : s.Saved r)
    {request : Design.SaveRequest}
    (hgate : Design.saveProblems s.acceptsOverlay request = .ok [])
    (hfile : s.storage.isFolder = true →
      Json.ofText (Json.arr request.messages).toLines = .ok (.arr request.messages)) :
    ∃ d : Design, d.id = Design.idOf request.messages "" ∧
      (s.saveDesign request).1.Saved (Record.put r d.id d) ∧ SameSetup s (s.saveDesign request).1 := by
  obtain ⟨d, hd, hid, hbatch, hsaved⟩ := s.exists_saveDesign hgate
  have hlegible : s.storage.isFolder = true → d.Legible := fun hfolder => by
    rw [Design.Legible, hbatch]
    exact hfile hfolder
  obtain ⟨hkeeps, hfolder⟩ := h.keeps.keep hd.keepable hlegible
  rw [hsaved]
  refine ⟨d, hid, ⟨hkeeps, fun e he => ?_⟩, rfl, hfolder⟩
  rcases Record.mem_put he with rfl | hold
  · exact hd
  · exact h.accepted e hold

/-- One attempt: what is kept stays or is replaced under its id, and what passes the gate is kept. -/
theorem Saved.attempt {s : Service} {r : Record Design} (h : s.Saved r) {a : SaveAttempt}
    (hfile : s.storage.isFolder = true → ∀ request, s.Passes a request →
      Json.ofText (Json.arr request.messages).toLines = .ok (.arr request.messages)) :
    ∃ r', (s.attempt a).Saved r' ∧ SameSetup s (s.attempt a) ∧
      Record.keys r ⊆ Record.keys r' ∧
      ∀ request, s.Passes a request → Design.idOf request.messages "" ∈ Record.keys r' := by
  rw [s.attempt_eq]
  cases hrequest : a.request? with
  | none =>
    refine ⟨r, h, ⟨rfl, rfl⟩, fun _ hid => hid, fun request hpasses => ?_⟩
    rw [Passes, hrequest] at hpasses
    cases hpasses.1
  | some request =>
    have hown : ∀ other, s.Passes a other → other = request := fun other hpasses =>
      Option.some.inj (hpasses.1.symm.trans hrequest)
    -- what passes the gate is saved, anything else leaves the storage alone
    by_cases hgate : Design.saveProblems s.acceptsOverlay request = .ok []
    · obtain ⟨d, hid, hsaved, hsetup⟩ :=
        h.saveDesign hgate fun hfolder => hfile hfolder request ⟨hrequest, hgate⟩
      refine ⟨_, hsaved, hsetup, fun id hold => ?_, fun other hpasses => ?_⟩
      · exact (Record.mem_keys_put r d.id id d).mpr (Or.inr hold)
      · rw [hown other hpasses, ← hid]
        exact (Record.mem_keys_put r d.id d.id d).mpr (Or.inl rfl)
    · dsimp only
      rw [s.saveDesign_of_refused hgate]
      refine ⟨r, h, ⟨rfl, rfl⟩, fun _ hid => hid, fun other hpasses => ?_⟩
      exact absurd (hown other hpasses ▸ hpasses.2) hgate

/-- Attempts one after the other: the service keeps accepted designs, and under the id of every request
that passed the gate there is one. -/
theorem Saved.attemptAll {s : Service} {r : Record Design} (h : s.Saved r) {attempts : List SaveAttempt}
    (hfile : s.storage.isFolder = true → ∀ a ∈ attempts, ∀ request, s.Passes a request →
      Json.ofText (Json.arr request.messages).toLines = .ok (.arr request.messages)) :
    ∃ r', (s.attemptAll attempts).Saved r' ∧ SameSetup s (s.attemptAll attempts) ∧
      Record.keys r ⊆ Record.keys r' ∧
      ∀ a ∈ attempts, ∀ request, s.Passes a request →
        Design.idOf request.messages "" ∈ Record.keys r' := by
  induction attempts generalizing s r with
  | nil => exact ⟨r, h, ⟨rfl, rfl⟩, fun _ hid => hid, nofun⟩
  | cons a attempts ih =>
    obtain ⟨r₁, hfirst, ⟨haccepts, hfolder⟩, hkept, hsaved⟩ :=
      h.attempt fun hs request => hfile hs a List.mem_cons_self request
    -- saving changes no setting, so the gate stays the same
    have hpasses : ∀ b request, (s.attempt a).Passes b request ↔ s.Passes b request := by
      intro b request
      rw [Passes, Passes, haccepts]
    obtain ⟨r₂, hlast, ⟨haccepts', hfolder'⟩, hkept', hsaved'⟩ := ih hfirst fun hs b hb request hb' =>
      hfile (hfolder ▸ hs) b (List.mem_cons_of_mem a hb) request ((hpasses b request).mp hb')
    refine ⟨r₂, hlast, ⟨haccepts'.trans haccepts, hfolder'.trans hfolder⟩,
      fun id hid => hkept' (hkept hid), fun b hb request hrequest => ?_⟩
    rcases List.mem_cons.mp hb with rfl | hb
    · exact hkept' (hsaved request hrequest)
    · exact hsaved' b hb request ((hpasses b request).mpr hrequest)

/-! ## Asking for what was saved -/

theorem status_answerWith {fault : Answer.DepthFault} {values : List Json} {status : Nat} {body : Json}
    {answer : Answer} (h : answerWith fault values status body = .ok answer) :
    answer.status = status := by
  simp only [answerWith, Answer.withValues] at h
  split at h
  · cases h
    rfl
  · cases h

section Asking

variable {s : Service} {d : Design} {surface : Surface} {answer : Answer}

/-- Whoever asks for the preview of a design that is found and folds is not refused. -/
theorem status_previewDesign (hfound : s.storage.get? d.id = .ok (some d))
    (hfold : d.fold s.acceptsOverlay = .ok surface) (h : s.previewDesign d.id = .ok answer) :
    answer.status = 200 := by
  simp only [previewDesign, withDesign, hfound, withSurface, hfold] at h
  split at h
  · exact status_answerWith h
  · cases h

/-- So it is with the bindings. -/
theorem status_showBindings (hfound : s.storage.get? d.id = .ok (some d))
    (hfold : d.fold s.acceptsOverlay = .ok surface) (h : s.showBindings d.id = .ok answer) :
    answer.status = 200 := by
  simp only [showBindings, withDesign, hfound, withSurface, hfold] at h
  exact status_answerWith h

end Asking

/-- A saved design can be previewed.  Begin with empty storage of either kind, and attempt to save what
you like, with bodies that may be anything.  Then the storage lists designs, and under an id it finds the
one of the list that has it, if there is one; the id of every request that passed the gate is among them.
Each of them folds into an empty store that then has one surface, that of the id, so that neither the
preview nor the bindings are answered by saying that there is no design or that it is refused.  A folder
is trusted to read again what it wrote. -/
theorem saved_designs_are_previewable {s : Service} (hempty : s.storage.IsEmpty)
    (attempts : List SaveAttempt)
    (hfile : s.storage.isFolder = true → ∀ a ∈ attempts, ∀ request, s.Passes a request →
      Json.ofText (Json.arr request.messages).toLines = .ok (.arr request.messages)) :
    ∃ designs, (s.attemptAll attempts).storage.list = .ok designs ∧
      (∀ id, ((s.attemptAll attempts).storage.get? id = .ok none ∧ ∀ d ∈ designs, d.id ≠ id) ∨
        ∃ d ∈ designs, d.id = id ∧ (s.attemptAll attempts).storage.get? id = .ok (some d)) ∧
      (∀ a ∈ attempts, ∀ request, s.Passes a request →
        ∃ d ∈ designs, d.id = Design.idOf request.messages "") ∧
      ∀ d ∈ designs, (s.attemptAll attempts).storage.get? d.id = .ok (some d) ∧
        (∃ store surface,
          Design.foldBatch (s.attemptAll attempts).acceptsOverlay d.batch = .ok store ∧
          store.ids = [d.id] ∧ store.surface? d.id = some surface ∧ surface.id = d.id ∧
          d.fold (s.attemptAll attempts).acceptsOverlay = .ok surface) ∧
        ∀ answer, (s.attemptAll attempts).previewDesign d.id = .ok answer ∨
          (s.attemptAll attempts).showBindings d.id = .ok answer → answer.status = 200 := by
  have hstart : s.Saved [] := ⟨hempty.keeps, nofun⟩
  obtain ⟨r, ⟨hkeeps, haccepted⟩, -, -, hsaved⟩ := hstart.attemptAll hfile
  generalize s.attemptAll attempts = t at hkeeps haccepted ⊢
  have hmem : ∀ {id d}, Record.get? r id = some d →
      d ∈ Design.sort (Record.values r) ∧ d.id = id := fun hd =>
    ⟨Design.mem_sort.mpr (hkeeps.mem_values hd).1, (hkeeps.mem_values hd).2⟩
  refine ⟨_, hkeeps.list, fun id => ?_, fun a ha request hpasses => ?_, fun d hd => ?_⟩
  · rw [hkeeps.get? id]
    cases hget : Record.get? r id with
    | some d => exact Or.inr ⟨d, (hmem hget).1, (hmem hget).2, rfl⟩
    | none =>
      refine Or.inl ⟨rfl, fun d hd hid => ?_⟩
      have hown := hkeeps.get?_id (Design.mem_sort.mp hd)
      rw [hid, hget] at hown
      cases hown
  · obtain ⟨d, hget⟩ := Option.isSome_iff_exists.mp
      ((Record.has_iff_mem_keys r _).mpr (hsaved a ha request hpasses))
    exact ⟨d, hmem hget⟩
  · have hown := hkeeps.get?_id (Design.mem_sort.mp hd)
    have hfound : t.storage.get? d.id = .ok (some d) := by rw [hkeeps.get?, hown]
    obtain ⟨store, surface, hfold⟩ :=
      (haccepted _ (Record.mem_of_get?_eq_some hown)).exists_only_surface
    refine ⟨hfound, ⟨store, surface, hfold⟩, fun answer hanswer => ?_⟩
    rcases hanswer with hpreview | hbindings
    · exact status_previewDesign hfound hfold.2.2.2.2 hpreview
    · exact status_showBindings hfound hfold.2.2.2.2 hbindings

/-- A tile in a folder, between a batch that is refused and a body that is not there. -/
theorem tile_in_a_folder_is_previewable :
    let messages : List Json := [.obj [("createSurface", .obj [("surfaceId", .str "tile")])],
      .obj [("updateComponents", .obj [("surfaceId", .str "tile"),
        ("components", .arr [.obj [("id", .str "root"), ("component", .str "Text")]])])]]
    let attempts : List SaveAttempt := [.request ⟨none, []⟩, .request ⟨none, messages⟩, .body ""]
    let s := Service.new (.folder Folder.empty) false ⟨2026, 10, 19, 15, 7⟩ ""
    s.storage.IsEmpty ∧
      (s.storage.isFolder = true → ∀ a ∈ attempts, ∀ request, s.Passes a request →
        Json.ofText (Json.arr request.messages).toLines = .ok (.arr request.messages)) ∧
      ∃ d, d.id = "tile" ∧ (s.attemptAll attempts).storage.get? "tile" = .ok (some d) ∧
        ∀ answer, (s.attemptAll attempts).previewDesign "tile" = .ok answer ∨
          (s.attemptAll attempts).showBindings "tile" = .ok answer → answer.status = 200 := by
  intro messages attempts s
  have hempty : s.storage.IsEmpty := rfl
  have hread : Json.ofText (Json.arr messages).toLines = .ok (.arr messages) := by
    rw [← Fallible.toOption_eq_some_iff, Json.ofText]
    -- the text is taken apart before it is read, for joining it is slow
    simp only [messages, Json.toLines, Json.toLinesAt, Json.itemLines, Json.memberLines, Json.enclose,
      Json.newLine, Json.toText, Json.quoted, List.isEmpty_cons, Bool.false_eq_true, if_false,
      String.intercalate_cons_cons, String.intercalate_singleton, String.toList_append,
      String.toList_ofList]
    decide +kernel
  have hgate : Design.saveProblems s.acceptsOverlay ⟨none, messages⟩ = .ok [] := by
    refine Design.saveProblems_eq_nil_iff.mpr ⟨by decide +kernel, ?_⟩
    exact Design.gateProblems_eq_nil_iff.mpr ⟨0, "tile", [], _, by decide +kernel,
      by decide +kernel, by decide +kernel, rfl, rfl, by decide +kernel⟩
  have hfile : s.storage.isFolder = true → ∀ a ∈ attempts, ∀ request, s.Passes a request →
      Json.ofText (Json.arr request.messages).toLines = .ok (.arr request.messages) := by
    rintro - a ha request ⟨hrequest, hpasses⟩
    simp only [attempts, List.mem_cons, List.not_mem_nil, or_false] at ha
    rcases ha with rfl | rfl | rfl
    · obtain rfl := Option.some.inj hrequest
      cases (Design.saveProblems_eq_nil_iff.mp hpasses).1
    · obtain rfl := Option.some.inj hrequest
      exact hread
    · cases hrequest
  obtain ⟨designs, -, -, hsaved, hall⟩ := saved_designs_are_previewable hempty attempts hfile
  obtain ⟨d, hd, hid⟩ := hsaved (.request ⟨none, messages⟩) (by simp [attempts]) _ ⟨rfl, hgate⟩
  have htile : d.id = "tile" := hid
  obtain ⟨hfound, -, hanswers⟩ := hall d hd
  rw [htile] at hfound hanswers
  exact ⟨hempty, hfile, d, htile, hfound, hanswers⟩

end Service

end UiSurface
