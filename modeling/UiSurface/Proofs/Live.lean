import UiSurface.Proofs.Import
import Mathlib.Data.List.Basic

/-!
# Taking a batch live

A live batch is judged message by message, each just before it is applied.  What is judged does not
depend on the store, so the messages that are skipped can be told beforehand, and the store takes the
others as it would in an import.  Where no message has a structural problem none is skipped.  So a
batch that is imported could as well have been taken live.

Main lemmas: `applyLiveFrom_eq` (a live batch is the run of its sound messages), `applyLive_eq`,
`applyLive_eq_of_sound`, `import_and_live_agree`.
-/

namespace UiSurface

namespace Validation

/-- The problems of a message of a batch, which comes with its index. -/
def problemsAt (e : Json × Nat) : List Problem := message (Place.message e.2) e.1

/-- Whether a message of a batch has a structural problem. -/
def isBroken (e : Json × Nat) : Bool := hasStructural (problemsAt e)

/-- A batch with messages is judged message by message. -/
theorem incremental_eq {vs : List Json} (h : vs ≠ []) :
    incremental (.arr vs) = (vs.zipIdx.map problemsAt).flatten := by
  cases vs with
  | nil => exact absurd rfl h
  | cons v vs => rfl

/-- No message of a sound batch is broken. -/
theorem isBroken_of_sound {vs : List Json} (h : hasStructural (incremental (.arr vs)) = false) :
    ∀ e ∈ vs.zipIdx, isBroken e = false := by
  intro e he
  have hvs : vs ≠ [] := fun hnil => by
    rw [hnil] at he
    cases he
  rw [incremental_eq hvs, hasStructural_eq_false_iff] at h
  rw [isBroken, hasStructural_eq_false_iff]
  exact fun p hp => h p (List.mem_flatten.mpr ⟨_, List.mem_map_of_mem he, hp⟩)

/-- What a complete batch lacks is a structural problem. -/
theorem isStructural_of_mem_completeness {kinds : List MessageKind} {p : Problem}
    (hp : p ∈ completeness kinds) : p.isStructural = true := by
  rcases List.mem_append.mp hp with hcreate | hupdate
  · obtain ⟨-, rfl⟩ := mem_require.mp hcreate
    rfl
  · obtain ⟨-, rfl⟩ := mem_require.mp hupdate
    rfl

/-- A complete batch without a structural problem lacks nothing: its problems are those of its
messages. -/
theorem complete_eq_incremental {batch : Json} (h : hasStructural (complete batch) = false) :
    complete batch = incremental batch := by
  rw [hasStructural_eq_false_iff] at h
  cases batch with
  | arr vs =>
    cases vs with
    | nil => rfl
    | cons v vs =>
      have hnone : completeness ((v :: vs).filterMap MessageKind.ofEnvelope?) = [] :=
        eq_nil_of_structural (fun _ => isStructural_of_mem_completeness)
          fun p hp => h p (List.mem_append_right _ hp)
      rw [complete, hnone, List.append_nil]
  | null | bool | num | str | obj => rfl

end Validation

namespace Store

open Validation (problemsAt isBroken)

/-- Of the messages from an index on, those without a structural problem. -/
def keptFrom (index : Nat) (vs : List Json) : List Json :=
  ((vs.zipIdx index).filter fun e => !isBroken e).map Prod.fst

/-- Of the messages from an index on, those with a structural problem, by index, each with its
problems. -/
def skippedFrom (index : Nat) (vs : List Json) : List (Nat × List Problem) :=
  ((vs.zipIdx index).filter isBroken).map fun e => (e.2, problemsAt e)

/-- Every message is kept or skipped. -/
theorem length_keptFrom_add_length_skippedFrom (index : Nat) (vs : List Json) :
    (keptFrom index vs).length + (skippedFrom index vs).length = vs.length := by
  have hsplit := List.length_eq_length_filter_add (l := vs.zipIdx index) isBroken
  simp only [List.length_zipIdx] at hsplit
  simp only [keptFrom, skippedFrom, List.length_map]
  omega

/-- What is kept is a message of the batch that is not broken. -/
theorem mem_keptFrom {index : Nat} {vs : List Json} {v : Json} :
    v ∈ keptFrom index vs ↔ ∃ i, (v, i) ∈ vs.zipIdx index ∧ isBroken (v, i) = false := by
  simp [keptFrom]

/-- What is not skipped decodes. -/
theorem exists_decodeAll_keptFrom (index : Nat) (vs : List Json) :
    ∃ ms, Message.decodeAll (keptFrom index vs) = .ok ms := by
  rw [Message.exists_decodeAll_iff]
  intro v hv
  obtain ⟨i, -, hsound⟩ := mem_keptFrom.mp hv
  exact Message.exists_decode_of_sound (hasStructural_eq_false_iff.mp hsound)

/-- A live batch from an index on: the messages without a structural problem are applied one by one, the
others are skipped, and every problem is reported. -/
theorem applyLiveFrom_eq (s : Store) (index : Nat) {vs : List Json} {ms : List Message}
    (hms : Message.decodeAll (keptFrom index vs) = .ok ms) :
    s.applyLiveFrom index vs = ((s.applyAll ms).1,
      ⟨(s.applyAll ms).2, skippedFrom index vs, ((vs.zipIdx index).map problemsAt).flatten⟩) := by
  rw [Message.decodeAll_eq_ok_iff] at hms
  induction vs generalizing s index ms with
  | nil =>
    obtain rfl : ms = [] := by simpa [keptFrom] using hms.symm
    rfl
  | cons v vs ih =>
    have hjudge : hasStructural (Validation.message (Place.message index) v) = isBroken (v, index) :=
      rfl
    -- a broken message is skipped and noted, any other is applied
    cases hbroken : isBroken (v, index) with
    | true =>
      have hkept : keptFrom index (v :: vs) = keptFrom (index + 1) vs := by
        simp [keptFrom, List.zipIdx_cons, hbroken]
      have hskipped : skippedFrom index (v :: vs) =
          (index, problemsAt (v, index)) :: skippedFrom (index + 1) vs := by
        simp [skippedFrom, List.zipIdx_cons, hbroken]
      have hlater := ih s (index + 1) (hkept ▸ hms)
      rw [applyLiveFrom, hjudge, hbroken, hlater, hskipped]
      simp [List.zipIdx_cons, problemsAt]
    | false =>
      have hkept : keptFrom index (v :: vs) = v :: keptFrom (index + 1) vs := by
        simp [keptFrom, List.zipIdx_cons, hbroken]
      have hskipped : skippedFrom index (v :: vs) = skippedFrom (index + 1) vs := by
        simp [skippedFrom, List.zipIdx_cons, hbroken]
      rw [hkept] at hms
      cases ms with
      | nil => cases hms
      | cons m ms =>
        obtain ⟨hv, hvs⟩ := List.cons.inj hms
        obtain ⟨members, rfl, hm⟩ := Message.decode_eq_ok_iff.mp hv
        have hlater := ih (s.apply m).1 (index + 1) hvs
        rw [applyLiveFrom, hjudge, hbroken, hskipped]
        simp [Json.members?, applyMembers_of_decode s hm, hlater, applyAll, List.zipIdx_cons,
          problemsAt]

/-- A live batch is the run of its sound messages; all that it reports was known beforehand. -/
theorem applyLive_eq (s : Store) {vs : List Json} (hvs : vs ≠ []) {ms : List Message}
    (hms : Message.decodeAll (keptFrom 0 vs) = .ok ms) :
    s.applyLive (.arr vs) = ((s.applyAll ms).1,
      ⟨(s.applyAll ms).2, skippedFrom 0 vs, Validation.incremental (.arr vs)⟩) := by
  rw [Validation.incremental_eq hvs, ← s.applyLiveFrom_eq 0 hms]
  cases vs with
  | nil => exact absurd rfl hvs
  | cons v vs => rfl

/-- What a live batch reports is what validation finds in it, whatever the batch is. -/
theorem problems_applyLive (s : Store) (batch : Json) :
    (s.applyLive batch).2.problems = Validation.incremental batch := by
  unfold applyLive
  split
  · rename_i v vs
    obtain ⟨ms, hms⟩ := exists_decodeAll_keptFrom 0 (v :: vs)
    rw [s.applyLiveFrom_eq 0 hms, Validation.incremental_eq (List.cons_ne_nil v vs)]
  · rfl

/-- In a batch without a structural problem every message is kept. -/
theorem kept_of_sound {vs : List Json}
    (h : hasStructural (Validation.incremental (.arr vs)) = false) :
    keptFrom 0 vs = vs ∧ skippedFrom 0 vs = [] := by
  have hsound := Validation.isBroken_of_sound h
  have hkept : (vs.zipIdx.filter fun e => !isBroken e) = vs.zipIdx :=
    List.filter_eq_self.mpr fun e he => by simp [hsound e he]
  have hskipped : vs.zipIdx.filter isBroken = [] :=
    List.filter_eq_nil_iff.mpr fun e he => by simp [hsound e he]
  refine ⟨?_, ?_⟩
  · rw [keptFrom, hkept, List.zipIdx_map_fst]
  · rw [skippedFrom, hskipped, List.map_nil]

/-- A live batch without a structural problem is applied whole: no message is skipped, and its problems
are those of the batch. -/
theorem applyLive_eq_of_sound (s : Store) {batch : Json}
    (h : hasStructural (Validation.incremental batch) = false) :
    ∃ envelopes ms, batch = .arr envelopes ∧ Message.decodeAll envelopes = .ok ms ∧
      s.applyLive batch =
        ((s.applyAll ms).1, ⟨(s.applyAll ms).2, [], Validation.incremental batch⟩) := by
  obtain ⟨vs, ms, rfl, hms⟩ := Message.exists_decodeAll_of_sound (hasStructural_eq_false_iff.mp h)
  have hvs : vs ≠ [] := by
    rintro rfl
    cases h
  obtain ⟨hkept, hskipped⟩ := kept_of_sound h
  refine ⟨vs, ms, rfl, hms, ?_⟩
  rw [s.applyLive_eq hvs (hkept.symm ▸ hms), hskipped]

/-! ## Live or as a whole -/

/-- A batch that an import takes comes to the same if it is taken live: the store is the same to the
last call of a listener, the messages have the same outcomes, the same problems are reported, and no
message is skipped.  This holds of every store, disposed of or not, and of messages that are refused on
the way. -/
theorem import_and_live_agree {s t : Store} {batch : Json} {imported : Imported}
    (h : s.importBatch batch = (t, .ok imported)) :
    s.applyLive batch = (t, ⟨imported.outcomes, [], imported.problems⟩) := by
  have hsound : hasStructural (Validation.complete batch) = false := by
    cases hbroken : hasStructural (Validation.complete batch) with
    | false => rfl
    | true =>
      rw [importBatch, if_pos hbroken] at h
      cases h
  obtain ⟨vs, ms, hbatch, hms, himport⟩ := s.importBatch_eq_of_sound hsound
  obtain ⟨ws, ns, hsame, hns, hlive⟩ :=
    s.applyLive_eq_of_sound (Validation.hasStructural_incremental hsound)
  -- both decode the batch to the same messages
  obtain rfl := Json.arr.inj (hbatch.symm.trans hsame)
  obtain rfl := Except.ok.inj (hms.symm.trans hns)
  rw [h, Validation.complete_eq_incremental hsound] at himport
  obtain ⟨rfl, himported⟩ := Prod.mk.inj himport
  obtain rfl := Except.ok.inj himported
  exact hlive

/-- A batch that names a missing child, deletes its surface and updates it once more is taken both ways,
with the last message refused. -/
theorem tile_deleted_on_the_way_both_ways :
    let create : Json := .obj [("createSurface", .obj [("surfaceId", .str "tile")])]
    let update : Json := .obj [("updateComponents", .obj [("surfaceId", .str "tile"),
      ("components", .arr [.obj [("id", .str "root"), ("component", .str "Row"),
        ("children", .obj [("explicitList", .arr [.str "later"])])]])])]
    let delete : Json := .obj [("deleteSurface", .obj [("surfaceId", .str "tile")])]
    let batch : Json := .arr [create, update, delete, update]
    ∃ t imported, (empty false).importBatch batch = (t, .ok imported) ∧
      imported.outcomes = [.accepted "tile" [], .accepted "tile" [.danglingChild "root" "later"],
        .accepted "tile" [], .refused (some "tile") (.noSurface "tile")] ∧
      imported.problems.map Problem.cause = [.danglingChild "later", .danglingChild "later"] ∧
      (empty false).applyLive batch = (t, ⟨imported.outcomes, [], imported.problems⟩) := by
  intro create update delete batch
  refine ⟨_, _, rfl, by decide +kernel, by decide +kernel, import_and_live_agree rfl⟩

end Store

end UiSurface
