import UiSurface.Command.Program
import UiSurface.Surface.Render
import UiSurface.Text.Lines

/-!
# Batches in files — checking and viewing them

A batch is read from a file.  To validate it is to judge it as a complete batch, or live, message by
message; to view it is to import it into a store of its own and to print the outline of its surface.
A command says whether all is well.
-/

namespace UiSurface.Command

open Program

/-! ## Reading files -/

/-- The text of a file (`_read_text`); a file that is not read ends the program. -/
def readFile (path : String) : Program String :=
  if path.toList.contains '\x00' then stop (.fault .nullInPath)
  else readText path fun
    | .ok text => done (String.ofList (Text.unifyLineEnds text.toList))
    | .error fault => do
      print ("Error: could not read " ++ path ++ ": " ++ fault.message)
      exit 1

/-- Ends a program that has read what is no JSON. -/
def notJson {α : Type} (path : String) (fault : Json.TextFault) : Program α := do
  print ("Error: " ++ path ++ " is not valid JSON: " ++ fault.message)
  exit 1

/-- The batch of a file (`load_messages`). -/
def readMessages (path : String) : Program (List Json) := do
  match Envelope.ofText (← readFile path) with
  | .ok messages => return messages
  | .error fault => notJson path fault

/-- The overlay of a file (`load_overlay`): one object. -/
def readOverlay (path : String) : Program (Record Json) := do
  match Json.ofText (← readFile path) with
  | .ok (.obj members) => return members
  | .ok _ => do
    print ("Error: " ++ path ++ " must hold a JSON object")
    exit 1
  | .error (.digits fault) => stop (.fault (.text (.text (.digits fault))))
  | .error fault => notJson path fault

/-! ## Judging -/

/-- How many things there are. -/
def count (n : Nat) (what : String) : String := Number.intText n ++ " " ++ what

/-- Prints problems, one a line (`print_errors`). -/
def printProblems (problems : List Problem) : Program Unit :=
  printAll (problems.map (fun p => "  " ++ p.line))

/-- Says why a batch is refused. -/
def refuse (problems : List Problem) : Program Bool := do
  print ("Invalid: " ++ count problems.length "error(s)")
  printProblems problems
  return false

/-- Judges a complete batch. -/
def validateComplete (messages : List Json) : Program Bool := do
  match Validation.complete (.arr messages) with
  | [] => do
    print ("OK: " ++ count messages.length "message(s)")
    return true
  | p :: ps => refuse (p :: ps)

/-- Says how a batch of so many messages was applied. -/
def liveVerdict (size : Nat) (report : Store.LiveReport) : Program Bool := do
  match report.skipped with
  | [] => do
    print ("OK: " ++ count report.outcomes.length "message(s) applied")
    return true
  | skipped => do
    print ("Invalid: " ++ Number.intText skipped.length ++ " of " ++
      count size "message(s) skipped")
    return false

/-- Judges a batch by applying it message by message. -/
def validateLive (messages : List Json) : Program Bool := do
  let report := ((Store.empty true).applyLive (.arr messages)).2
  -- what is no reason to skip a message is printed as well
  printProblems report.problems
  liveVerdict messages.length report

/-- Judges a batch (`cmd_validate`). -/
def validateBatch (live : Bool) (messages : List Json) : Program Bool :=
  if live then validateLive messages else validateComplete messages

/-! ## Viewing -/

/-- Prints the outline of a batch at a time (`cmd_view`). -/
def viewBatch (now : Stamp) (messages : List Json) : Program Bool := do
  match ((Store.empty true).importBatch (.arr messages)).2 with
  | .error (.rejected problems) => refuse problems
  | .error (.undecodable fault) => stop (.fault (.undecodable fault))
  | .ok imported =>
    unless imported.problems.isEmpty do
      print ("Warning: " ++ count imported.problems.length "referential problem(s)")
      printProblems imported.problems
    match imported.surface with
    | some surface => do
      print (surface.renderText now)
      return true
    | none => do
      print "No surface left after this batch."
      return false

end UiSurface.Command
