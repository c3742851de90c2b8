import UiSurface.Proofs.Live

/-!
# Causes — what is wrong with a message does not depend on where it stands

A message is judged with its place in the batch, and the place only goes into the places of its problems.
The same is wrong with the same message wherever it stands, and so what is kept of a batch is all of its
sound messages.

Main lemmas: `Validation.alike_message`, `Store.keptFrom_eq_filter`.
-/

namespace UiSurface

namespace Validation

/-- The same is wrong, at whatever places. -/
def Alike (ps qs : List Problem) : Prop := ps.map Problem.cause = qs.map Problem.cause

/-- Problems that are alike may be put together. -/
theorem Alike.append {ps qs ps' qs' : List Problem} (h : Alike ps qs) (h' : Alike ps' qs') :
    Alike (ps ++ ps') (qs ++ qs') := by
  simp only [Alike, List.map_append] at h h' ⊢
  rw [h, h']

/-- Where the same is wrong, both or neither is structural. -/
theorem Alike.hasStructural_eq {ps qs : List Problem} (h : Alike ps qs) :
    hasStructural ps = hasStructural qs := by
  have hcauses : ∀ ps : List Problem,
      hasStructural ps = (ps.map Problem.cause).any ProblemCause.isStructural := by
    intro ps
    rw [List.any_map]
    rfl
  rw [hcauses, hcauses, h]

/-! ## Parts of a message -/

theorem alike_require (ok : Bool) (p q : String) (cause : ProblemCause) :
    Alike (require ok p cause) (require ok q cause) := by
  cases ok <;> rfl

/-- Judges that agree on every item agree on the list. -/
theorem alike_itemwise {α : Type} {judge judge' : Nat → α → List Problem}
    (h : ∀ i v, Alike (judge i v) (judge' i v)) (items : List α) :
    Alike (itemwise judge items) (itemwise judge' items) := by
  simp only [Alike, itemwise, List.map_flatten, List.map_map] at h ⊢
  congr 1
  exact List.map_congr_left fun e _ => h e.2 e.1

theorem alike_children (p q : String) (v : Option Json) : Alike (children p v) (children q v) := by
  unfold children
  split
  · rfl
  · split
    · rfl
    · unfold explicitList
      split
      · exact alike_itemwise (fun _ _ => alike_require ..) _
      · rfl
  · rfl

theorem alike_action (p q : String) (v : Option Json) : Alike (action p v) (action q v) := by
  unfold action
  split
  · rfl
  · split
    · exact alike_require ..
    · rfl

/-- The place of a component decides only where its problems are. -/
theorem alike_component (p q : String) (v : Json) : Alike (component p v) (component q v) := by
  cases v with
  | obj members =>
    -- id, type, children, action, and the four fields
    refine ((((((Alike.append ?_ ?_).append ?_).append ?_).append ?_).append ?_).append ?_).append ?_
    · exact alike_require ..
    · exact alike_require ..
    · exact alike_children ..
    · exact alike_action ..
    all_goals exact alike_require ..
  | null | bool | num | str | arr => rfl

/-- References are judged alike at whatever place. -/
theorem alike_references (p q : String) (items : List Json) :
    Alike (references p items) (references q items) := by
  have hchildren : ∀ (ids : List String) (p q : String) (child : Json),
      Alike (reference ids p child) (reference ids q child) := by
    intro ids p q child
    cases child with
    | str child => exact alike_require ..
    | null | bool | num | arr | obj => rfl
  refine (alike_itemwise (fun _ _ => alike_itemwise (fun _ _ => hchildren ..) _) _).append ?_
  split
  · rfl
  · exact alike_require ..

theorem alike_tokens (p q : String) (v : Json) : Alike (tokens p v) (tokens q v) := by
  cases v with
  | obj members =>
    simp only [Alike, tokens, List.map_flatMap]
    congr 1
    funext m
    exact alike_require ..
  | null | bool | num | str | arr => rfl

theorem alike_components (p q : String) (v : Json) : Alike (components p v) (components q v) := by
  cases v with
  | arr items =>
    exact (alike_itemwise (fun _ _ => alike_component ..) items).append (alike_references p q items)
  | null | bool | num | str | obj => rfl

theorem alike_modelUpdate (p q : String) (body : Record Json) :
    Alike (modelUpdate p body) (modelUpdate q body) := by
  unfold modelUpdate
  split
  · split
    · exact alike_require ..
    · exact alike_require ..
  · split
    · exact alike_require ..
    · rfl
  · rfl

/-! ## Messages -/

/-- The place of a body decides only where its problems are. -/
theorem alike_messageBody (kind : MessageKind) (p q : String) (body : Record Json) :
    Alike (messageBody kind p body) (messageBody kind q body) := by
  refine (alike_require ..).append ?_
  cases kind with
  | createSurface => exact alike_tokens ..
  | updateComponents => exact alike_components ..
  | updateDataModel => exact alike_modelUpdate ..
  | deleteSurface => rfl

/-- The same is wrong with a message at every place. -/
theorem alike_message (p q : String) (v : Json) : Alike (message p v) (message q v) := by
  cases v with
  | obj members =>
    simp only [message]
    split
    · rfl
    · split
      · exact alike_messageBody ..
      · rfl
    · rfl
  | null | bool | num | str | arr => rfl

/-- Whether a message has no structural problem, wherever it stands. -/
def isSound (v : Json) : Bool := !hasStructural (message Place.batch v)

/-- Whether a message is broken does not depend on where it stands. -/
theorem isBroken_eq (e : Json × Nat) : isBroken e = !isSound e.1 := by
  rw [isBroken, isSound, problemsAt, Bool.not_not]
  exact (alike_message ..).hasStructural_eq

end Validation

namespace Store

/-- What is kept of the messages from an index on is those that are sound. -/
theorem keptFrom_eq_filter (index : Nat) (vs : List Json) :
    keptFrom index vs = vs.filter Validation.isSound := by
  have hsound : (fun e : Json × Nat => !Validation.isBroken e) = Validation.isSound ∘ Prod.fst := by
    funext e
    simp [Validation.isBroken_eq]
  rw [keptFrom, hsound, ← List.filter_map, List.zipIdx_map_fst]

end Store

end UiSurface
