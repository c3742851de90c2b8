import UiSurface.Proofs.Agreement

/-!
# Importing a batch

An import judges the whole batch first, decodes it second, and only then touches the store.  Since
what is judged sound decodes, the second step never fails, and what the import does to the store is
what the envelopes do one by one.

Main lemmas: `applyValue_of_decode` (an envelope acts as the message it decodes to),
`applyValues_of_decodeAll` (so does a batch), `importBatch_eq_of_sound` (what an import makes of a
store), `importBatch_all_or_nothing`.
-/

namespace UiSurface.Store

/-- An envelope acts on a store as the message that it decodes to, disposed of or not. -/
theorem applyMembers_of_decode (s : Store) {members : Record Json} {m : Message}
    (h : Message.decodeMembers members = .ok m) : s.applyMembers members = s.apply m := by
  cases hd : s.disposed with
  | true => simp [applyMembers, apply, hd]
  | false => simp [applyMembers, hd, h]

/-- A value that decodes is applied as the message that it decodes to. -/
theorem applyValue_of_decode (s : Store) {v : Json} {m : Message} (h : Message.decode v = .ok m) :
    s.applyValue v = .ok (s.apply m) := by
  obtain ⟨members, rfl, hm⟩ := Message.decode_eq_ok_iff.mp h
  rw [applyValue, applyMembers_of_decode s hm]

/-- A batch that decodes acts on a store as its messages. -/
theorem applyValues_of_decodeAll (s : Store) {vs : List Json} {ms : List Message}
    (h : Message.decodeAll vs = .ok ms) :
    s.applyValues vs = ((s.applyAll ms).1, .ok (s.applyAll ms).2) := by
  rw [Message.decodeAll_eq_ok_iff] at h
  induction vs generalizing s ms with
  | nil =>
    obtain rfl : ms = [] := by simpa using h.symm
    rfl
  | cons v vs ih =>
    cases ms with
    | nil => cases h
    | cons m ms =>
      obtain ⟨hv, hvs⟩ := List.cons.inj h
      simp only [applyValues, applyValue_of_decode s hv, ih _ hvs, applyAll, Except.map]

theorem length_applyAll (s : Store) (ms : List Message) : (s.applyAll ms).2.length = ms.length := by
  induction ms generalizing s with
  | nil => rfl
  | cons m ms ih => simp [applyAll, ih]

/-- A batch without a structural problem is imported, and that is to apply its messages. -/
theorem importBatch_eq_of_sound (s : Store) {batch : Json}
    (h : hasStructural (Validation.complete batch) = false) :
    ∃ envelopes ms, batch = .arr envelopes ∧ Message.decodeAll envelopes = .ok ms ∧
      s.importBatch batch = ((s.applyAll ms).1,
        .ok ⟨(lastTouched ms (s.applyAll ms).2).bind (s.applyAll ms).1.surface?,
          Validation.complete batch, (s.applyAll ms).2⟩) := by
  have hincremental := hasStructural_eq_false_iff.mp (Validation.hasStructural_incremental h)
  obtain ⟨vs, ms, rfl, hms⟩ := Message.exists_decodeAll_of_sound hincremental
  exact ⟨vs, ms, rfl, hms, by simp [importBatch, h, Json.items?, hms]⟩

/-- A batch without a structural problem is imported, and that is to apply its envelopes. -/
theorem importBatch_of_sound (s : Store) {batch : Json}
    (h : hasStructural (Validation.complete batch) = false) :
    ∃ envelopes imported, batch = .arr envelopes ∧
      s.importBatch batch = ((s.applyValues envelopes).1, .ok imported) ∧
      (s.applyValues envelopes).2 = .ok imported.outcomes ∧
      imported.outcomes.length = envelopes.length ∧
      imported.problems = Validation.complete batch := by
  obtain ⟨vs, ms, rfl, hms, himport⟩ := s.importBatch_eq_of_sound h
  have happly := s.applyValues_of_decodeAll hms
  refine ⟨vs, ⟨(lastTouched ms (s.applyAll ms).2).bind (s.applyAll ms).1.surface?,
    Validation.complete (.arr vs), (s.applyAll ms).2⟩, rfl, ?_, ?_, ?_, rfl⟩
  · rw [himport, happly]
  · rw [happly]
  · rw [length_applyAll, Message.length_of_decodeAll hms]

/-- An import is all or nothing.  It is rejected exactly if the batch has a structural problem, with
all problems listed and the store as it was: surfaces, handles and calls of listeners.  Any other
batch is imported: there is no other fault, each message has its outcome, and the store is the one
that the envelopes make of it one by one.  This holds of every store. -/
theorem importBatch_all_or_nothing (s : Store) (batch : Json) :
    ((∃ problems, (s.importBatch batch).2 = .error (.rejected problems)) ↔
      hasStructural (Validation.complete batch) = true) ∧
    (hasStructural (Validation.complete batch) = true →
      s.importBatch batch = (s, .error (.rejected (Validation.complete batch)))) ∧
    (hasStructural (Validation.complete batch) = false →
      ∃ envelopes imported, batch = .arr envelopes ∧
        s.importBatch batch = ((s.applyValues envelopes).1, .ok imported) ∧
        (s.applyValues envelopes).2 = .ok imported.outcomes ∧
        imported.outcomes.length = envelopes.length ∧
        imported.problems = Validation.complete batch) := by
  have hrejected : hasStructural (Validation.complete batch) = true →
      s.importBatch batch = (s, .error (.rejected (Validation.complete batch))) := by
    intro h
    simp [importBatch, h]
  refine ⟨?_, hrejected, s.importBatch_of_sound⟩
  constructor
  · rintro ⟨problems, hproblems⟩
    -- a batch without a structural problem is imported, so it was not rejected
    cases h : hasStructural (Validation.complete batch) with
    | true => rfl
    | false =>
      obtain ⟨vs, imported, -, himport, -⟩ := s.importBatch_of_sound h
      rw [himport] at hproblems
      cases hproblems
  · intro h
    exact ⟨_, by rw [hrejected h]⟩

end UiSurface.Store
