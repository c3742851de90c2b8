import UiSurface.Command.Arguments
import UiSurface.Command.Help
import UiSurface.Command.Remote

/-!
# The command line — from words to a program

The words are read first; a question for help comes before all else.  A command that wants an
operand and has none is not begun.  A command exits with status zero if all is well and with one if
not.
-/

namespace UiSurface.Command

open Program

/-- What a command line takes from its surroundings. -/
structure Surroundings where
  /-- the time that outlines show -/
  now : Stamp
  /-- the address of the service that the environment gives -/
  apiUrl : Option String

def exitWith {α : Type} (verdict : Bool) : Program α := exit (if verdict then 0 else 1)

/-- The overlay of a design, if a file is named for it. -/
def overlayOf (file : Option String) : Program (Option (Record Json)) :=
  match file with
  | some path => if path.isEmpty then return none else some <$> readOverlay path
  | none => return none

/-- Runs a command on a file. -/
def runOnFile (s : Surroundings) (a : Arguments) (c : Command) (path : String) : Program Unit := do
  -- the file is read before the service is thought of
  let messages ← readMessages path
  let base := Api.base a.apiUrl s.apiUrl
  match c with
  | .view => exitWith (← viewBatch s.now messages)
  | .push => do
    pushBatch base messages a.deviceId
    exit 0
  | .save => do
    saveBatch base messages a.designId
    exit 0
  | _ => exitWith (← validateBatch a.live messages)

/-- Runs a command that needs no file for its operand. -/
def runOnService (s : Surroundings) (a : Arguments) (c : Command) : Program Unit := do
  let base := Api.base a.apiUrl s.apiUrl
  match c, a.designId with
  | .designs, _ => printDesigns base
  | .devices, _ => printDevices base
  | _, some id => pushDesignTo base id (← overlayOf a.dataFile)
  | c, none => do
    print ("Error: " ++ c.name ++ " requires a design ID")
    exit 1
  exit 0

def run (s : Surroundings) (a : Arguments) (c : Command) : Program Unit :=
  if c.takesFile then
    match a.file with
    | some path => runOnFile s a c path
    | none => do
      print ("Error: " ++ c.name ++ " requires a FILE")
      exit 1
  else runOnService s a c

/-- Does what arguments say. -/
def perform (s : Surroundings) (a : Arguments) : Program Unit :=
  if a.showHelp then printAll helpLines
  else if a.showVersion then print versionLine
  else match a.command with
    | some c => run s a c
    | none => do
      printAll helpLines
      exit 1

/-- The arguments of the words; words that say nothing end the program. -/
def arguments (words : List String) : Program Arguments :=
  match Arguments.read words with
  | .ok a => done a
  | .error fault => do
    printAll fault.lines
    exit 1

/-- The program of a command line (`main`). -/
def entry (s : Surroundings) (words : List String) : Program Unit := do
  perform s (← arguments words)

end UiSurface.Command
