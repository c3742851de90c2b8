import Std.Time.Format
import UiSurface.Command.Entry

/-!
# The program

The outer layer of the command line: it looks up the time and the environment, and does what a
program asks for, step by step.  It has no way to the service, so that every request fails.
-/

namespace UiSurface.Outer

def now : IO Stamp := do
  let t ← Std.Time.PlainDateTime.now
  return ⟨t.year.toNat, t.month.toNat, t.day.toNat, t.hour.toNat, t.minute.toNat⟩

/-- What reading a file brings. -/
def readPath (path : String) : IO (Except ReadFault String) := do
  try
    return .ok (← IO.FS.readFile path)
  catch
    | .noFileOrDirectory .. => return .error .absent
    | .inappropriateType .. => return .error .folder
    | fault => return .error (.other (toString fault))

def answer (_ : ApiRequest) : IO (Except String ApiReply) :=
  return .error "no connection"

/-- Does what a program asks for, and says how it ends. -/
def perform : Program Unit → IO Ending
  | .done _ => return .finished
  | .stop ending => return ending
  | .say line next => do
    -- what stands for a surrogate must not reach the output as a character
    if Text.Codec.utf8.takesText line then
      IO.println line
      perform next
    else return .fault (.unprintable (Text.Codec.utf8.refusal line))
  | .readText path next => do perform (next (← readPath path))
  | .send request next => do perform (next (← answer request))

end UiSurface.Outer

open UiSurface in
/-- Runs the program of the command line. -/
def main (words : List String) : IO UInt32 := do
  let surroundings : Command.Surroundings := ⟨← Outer.now, ← IO.getEnv "A2UI_API_URL"⟩
  let ending ← Outer.perform (Command.entry surroundings words)
  if let .fault fault := ending then IO.eprintln fault.message
  return ending.status.toUInt32
