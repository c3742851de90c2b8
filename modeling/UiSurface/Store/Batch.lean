import UiSurface.Message.Text
import UiSurface.Store.Apply
import UiSurface.Validation

/-!
# Batches — two ways to take many messages

An import takes a complete batch: one structural problem anywhere refuses it all, before the store
is touched.  A live batch is taken message by message: a message with a structural problem is
skipped, the others are applied.
-/

namespace UiSurface.Store

/-! ## Import -/

/-- Why an import did not take place. -/
inductive ImportFault where
  /-- the batch has a structural problem; all its problems are listed -/
  | rejected (problems : List Problem)
  /-- a message did not decode although it was judged sound -/
  | undecodable (fault : Message.Fault)

/-- The text that lists the problems of a rejected batch. -/
def rejectionText (problems : List Problem) : String :=
  "Invalid A2UI messages:\n" ++
    String.intercalate "\n" (problems.map (fun p => "  " ++ p.line))

/-- What an import did.  `surface` is the last surface that it touched, if that is still there. -/
structure Imported where
  surface : Option Surface
  problems : List Problem
  outcomes : List Outcome

/-- The surface id of the last message that was applied. -/
def lastTouched (messages : List Message) (outcomes : List Outcome) : Option String :=
  ((messages.zip outcomes).filter (fun e => e.2.isAccepted)).getLast?.map (fun e => e.1.surface)

/-- Imports a complete batch (`import_batch`). -/
def importBatch (s : Store) (batch : Json) : Store × Except ImportFault Imported :=
  let problems := Validation.complete batch
  if hasStructural problems then (s, .error (.rejected problems))
  -- all messages decode before the first is applied
  else match Message.decodeAll (batch.items?.getD []) with
    | .error fault => (s, .error (.undecodable fault))
    | .ok messages =>
      let (s, outcomes) := s.applyAll messages
      (s, .ok ⟨(lastTouched messages outcomes).bind s.surface?, problems, outcomes⟩)

/-! ## Live -/

/-- What a live batch did. -/
structure LiveReport where
  /-- what became of the messages that were not skipped -/
  outcomes : List Outcome
  /-- the messages that were skipped, by index, each with its problems -/
  skipped : List (Nat × List Problem)
  /-- every problem of the batch -/
  problems : List Problem
deriving DecidableEq

def LiveReport.lastSurface (r : LiveReport) : Option String :=
  ((r.outcomes.filter Outcome.isAccepted).filterMap Outcome.surface?).getLast?

/-- Takes the messages from an index on. -/
def applyLiveFrom (s : Store) (index : Nat) : List Json → Store × LiveReport
  | [] => (s, ⟨[], [], []⟩)
  | v :: vs =>
    let problems := Validation.message (Place.message index) v
    if hasStructural problems then
      let (s, report) := s.applyLiveFrom (index + 1) vs
      (s, ⟨report.outcomes, (index, problems) :: report.skipped, problems ++ report.problems⟩)
    else
      -- a message without a structural problem is an object
      let (s, outcome) := s.applyMembers (v.members?.getD [])
      let (s, report) := s.applyLiveFrom (index + 1) vs
      (s, ⟨outcome :: report.outcomes, report.skipped, problems ++ report.problems⟩)

/-- Takes a live batch (`apply_live`).  What is no array of messages does nothing. -/
def applyLive (s : Store) : Json → Store × LiveReport
  | .arr (v :: vs) => s.applyLiveFrom 0 (v :: vs)
  | v => (s, ⟨[], [], Validation.incremental v⟩)

end UiSurface.Store
