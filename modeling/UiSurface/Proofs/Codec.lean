import UiSurface.Proofs.Agreement
import UiSurface.Proofs.Encoding
import UiSurface.Proofs.References

/-!
# What is encoded is sound

Decoding forgives more than validation: null children, null lists and null actions pass for absent ones.
Encoding writes what was decoded in the one form that both take, so what decodes comes back unchanged and
loses every problem of its form.  Two kinds of problems remain.  References between components are a
matter of the components, not of the form, and are never structural.  A value that replaces a whole data
model is kept as it came, object or not.

`Message.problems` tells what remains.

Main lemmas: `Component.problems_encode` (a component), `Message.problems_encode` (a message),
`Message.codec_round_trips`.
-/

namespace UiSurface

/-! ## Components -/

namespace Component

theorem explicitList_encodeChildren_ne_null (list : ChildList) :
    Record.get? (member? "explicitList" (list.explicit.map (fun ids => .arr (ids.map .str))) ++
      member? "template" (list.template.map encodeTemplate)) "explicitList" ≠ some .null := by
  cases hexplicit : list.explicit <;> simp [Record.get?_append, get?_member?]

/-- Nothing is overlooked when an encoded component is decoded: what is absent is not written. -/
theorem not_overlooked_encodeMembers {c : Component} (h : c.Sound) (place : String) (p : Problem) :
    ¬ Overlooked place c.encodeMembers p := by
  obtain ⟨hchildren, haction, -⟩ := get?_encodeMembers h
  obtain ⟨spot, cause⟩ := p
  -- what is overlooked is a null, and none is written there
  cases cause with
  | children =>
    rintro ⟨-, hnull⟩
    rw [hchildren] at hnull
    obtain ⟨list, -, hlist⟩ := Option.map_eq_some_iff.mp hnull
    cases hlist
  | explicitList =>
    rintro ⟨-, members, hmembers, hnull⟩
    rw [hchildren] at hmembers
    obtain ⟨list, -, hlist⟩ := Option.map_eq_some_iff.mp hmembers
    obtain rfl := Json.obj.inj hlist
    exact explicitList_encodeChildren_ne_null list hnull
  | action =>
    rintro ⟨-, hnull⟩
    rw [haction] at hnull
    obtain ⟨a, -, ha⟩ := Option.map_eq_some_iff.mp hnull
    cases ha
  | _ => exact False.elim

/-- An encoded component has no problem. -/
theorem problems_encode {c : Component} (h : c.Sound) (place : String) :
    Validation.component place c.encode = [] := by
  rw [List.eq_nil_iff_forall_not_mem]
  intro p hp
  obtain ⟨members, hmembers, hover⟩ :=
    (mem_problems_iff_of_decode (decode_encode h)).mp hp
  obtain rfl := Json.obj.inj hmembers
  exact not_overlooked_encodeMembers h place p hover

end Component

/-! ## Messages -/

namespace Message

/-- What is wrong with a message whatever form it comes in. -/
def problems (place : String) : Message → List Problem
  | updateComponents _ cs =>
    Validation.referencesAmong (Place.member (Place.member place "updateComponents") "components") cs
  | updateDataModel _ (.write path value) =>
    if (ModelUpdate.write path value).replacesRoot then
      Validation.rootValue (Place.member place "updateDataModel") value
    else []
  | updateDataModel _ (.overlay _) | createSurface .. | deleteSurface _ => []

/-- The problems of an encoded change of a data model. -/
theorem modelUpdate_encodeBody (place id : String) (update : ModelUpdate) :
    Validation.modelUpdate place (encodeBody (updateDataModel id update)) =
      match update with
      | .write path value =>
        if (ModelUpdate.write path value).replacesRoot then Validation.rootValue place value else []
      | .overlay _ => [] := by
  cases update with
  | overlay entries => rfl
  | write path value =>
    cases path with
    | none => rfl
    | some path =>
      show (if (path == "/") = true then Validation.rootValue place value else []) = _
      simp [ModelUpdate.replacesRoot]

/-- An encoded message has the problems that are told of the message and no others. -/
theorem problems_encode {m : Message} (h : m.Sound) (place : String) :
    Validation.message place m.encode = m.problems place := by
  obtain ⟨body, hbody, hdecode, hjudged⟩ := problems_of_decodeMembers (decode_encode h) place
  obtain rfl : m.encodeBody = body := by simpa [Record.get?] using hbody
  obtain ⟨-, hid, hread⟩ := decodeBody_eq_ok_iff.mp hdecode
  -- the id that was read is a name, so it is not found fault with
  have hsurface : Validation.surfaceId m.kind (Place.member place m.kind.name) m.encodeBody = [] := by
    rw [Validation.surfaceId, Validation.require_eq_nil_iff, Json.isName, hid]
    rfl
  refine hjudged.trans ?_
  unfold Validation.messageBody
  rw [hsurface, List.nil_append]
  cases m with
  | createSurface id catalogId sendDataModel tokens =>
    exact (exists_decodeTokens_iff _).mp ⟨tokens, hread.2.2⟩
  | updateComponents id cs =>
    have hsound := h.component id cs rfl
    have hcomponents : ∀ place, Validation.itemwise
        (fun row v => Validation.component (Place.item place row) v) (cs.map Component.encode) = [] := by
      intro place
      rw [Validation.itemwise_map, Validation.itemwise_eq_nil_iff]
      intro row c hc
      exact Component.problems_encode (hsound c (List.mem_of_getElem? hc)) _
    show Validation.components _ (.arr (cs.map Component.encode)) = _
    rw [Validation.components, hcomponents, List.nil_append,
      Validation.references_of_decode _ (decodeComponents_encode hsound)]
    rfl
  | updateDataModel id update =>
    refine (modelUpdate_encodeBody _ id update).trans ?_
    cases update <;> rfl
  | deleteSurface id => rfl

theorem hasStructural_rootValue {place : String} {v : Json} :
    hasStructural (Validation.rootValue place v) = true ↔ v.isObject = false := by
  cases hobject : v.isObject <;> simp [Validation.rootValue, Validation.require, hasStructural, hobject,
    Problem.isStructural, ProblemCause.isStructural]

/-- Of the problems of a message only one is structural: that a whole data model is replaced by what is
no object. -/
theorem hasStructural_problems (m : Message) (place : String) :
    hasStructural (m.problems place) = true ↔
      ∃ id path value, m = updateDataModel id (.write path value) ∧
        (path = none ∨ path = some "/") ∧ value.isObject = false := by
  -- of what decodes, only a root that is written with no object is structural
  cases m with
  | updateDataModel id update =>
    cases update with
    | write path value =>
      have hroot : (ModelUpdate.write path value).replacesRoot = true ↔
          path = none ∨ path = some "/" := by
        simp [ModelUpdate.replacesRoot]
      have hwrite : hasStructural ((updateDataModel id (.write path value)).problems place) = true ↔
          (ModelUpdate.write path value).replacesRoot = true ∧ value.isObject = false := by
        rw [problems]
        split
        · rename_i hreplaces
          simp [hasStructural_rootValue, hreplaces]
        · rename_i hkeeps
          simp [hasStructural, hkeeps]
      rw [hwrite, hroot]
      constructor
      · intro h
        exact ⟨id, path, value, rfl, h⟩
      · rintro ⟨_, _, _, hsame, h⟩
        cases hsame
        exact h
    | overlay entries => simp [problems, hasStructural]
  | updateComponents id cs =>
    have hnone : hasStructural ((updateComponents id cs).problems place) = false :=
      hasStructural_eq_false_iff.mpr fun p hp => Validation.isStructural_of_mem_referencesAmong hp
    simp [hnone]
  | createSurface | deleteSurface => simp [problems, hasStructural]

/-- What decodes comes back from its encoding unchanged, however it was written, and its encoding has no
structural problem unless it replaces a whole data model, without a path or at `/` and not in the older
form, by what is no object. -/
theorem codec_round_trips {v : Json} {m : Message} (h : decode v = .ok m) :
    decode m.encode = .ok m ∧
      ∀ place, hasStructural (Validation.message place m.encode) = true ↔
        ∃ id path value, m = updateDataModel id (.write path value) ∧
          (path = none ∨ path = some "/") ∧ value.isObject = false := by
  obtain ⟨members, rfl, hmembers⟩ := decode_eq_ok_iff.mp h
  have hsound := sound_of_decodeMembers hmembers
  refine ⟨decode_encode hsound, fun place => ?_⟩
  rw [problems_encode hsound]
  exact hasStructural_problems m place

/-- A component of the other name for its type, with a null list of children, a template over a path that
is no text, a null action, and a member of its own before its fields.  Its envelope has structural
problems; what it decodes to has none, and comes back. -/
theorem codec_round_trips_lenient_component :
    let v : Json := .obj [("updateComponents", .obj [("components", .arr [.obj [("weight", .null),
      ("componentType", .str "Row"), ("id", .str "root"), ("action", .null),
      ("children", .obj [("explicitList", .null), ("template", .obj [("dataPath", .num (.int 7))])])]]),
      ("surfaceId", .str "tile")])]
    let m : Message := .updateComponents "tile"
      [⟨"root", "Row", some ⟨none, some ⟨"7", ""⟩⟩, none, none, none, none, none, [("weight", .null)]⟩]
    hasStructural (Validation.message "e" v) = true ∧ decode v = .ok m ∧ decode m.encode = .ok m ∧
      hasStructural (Validation.message "e" m.encode) = false := by
  intro v m
  have hdecode : decode v = .ok m := by rfl
  obtain ⟨hback, hproblems⟩ := codec_round_trips hdecode
  refine ⟨by decide +kernel, hdecode, hback, ?_⟩
  rw [Bool.eq_false_iff]
  intro hstructural
  obtain ⟨id, path, value, hm, -⟩ := (hproblems "e").mp hstructural
  exact Message.noConfusion hm

end Message

end UiSurface
