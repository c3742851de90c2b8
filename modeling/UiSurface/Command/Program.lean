import UiSurface.Command.Api
import UiSurface.Json.Shape
import UiSurface.Store.Batch
import UiSurface.Text.Codec

/-!
# Programs — what a command does, step by step

A program prints lines, reads files and sends requests, and ends.  It is data: what it does is found
by running it in a world, which says what each file holds, what each request brings, and which
characters the output has: at a line that it does not have the program breaks off.

Main lemma: `run_bind` (what is seen of two programs, one after the other).
-/

namespace UiSurface

/-- Why a file is not read. -/
inductive ReadFault where
  | absent
  | folder
  | notFolder
  | longName
  | other (reason : String)
deriving DecidableEq

def ReadFault.message : ReadFault → String
  | absent => "No such file or directory"
  | folder => "Is a directory"
  | notFolder => "Not a directory"
  | longName => "File name too long"
  | other reason => reason

/-- Why a program breaks off. -/
inductive CommandFault where
  | shape (fault : ShapeFault)
  | text (fault : Json.EncodedFault)
  | request (fault : RequestFault)
  | undecodable (fault : Message.Fault)
  /-- the path holds the character zero -/
  | nullInPath
  /-- a line can not be written to the output -/
  | unprintable (reason : String)
deriving DecidableEq

def CommandFault.message : CommandFault → String
  | shape fault => fault.message
  | text fault => fault.message
  | request fault => fault.message
  | undecodable fault => fault.message
  | nullInPath => "embedded null byte"
  | unprintable reason => reason

/-- How a program ends. -/
inductive Ending where
  /-- it comes to its end -/
  | finished
  /-- it exits with a status -/
  | exit (status : Nat)
  /-- it breaks off -/
  | fault (fault : CommandFault)
deriving DecidableEq

/-- The status that is left behind; a program that breaks off leaves one. -/
def Ending.status : Ending → Nat
  | finished => 0
  | exit status => status
  | fault _ => 1

/-- What is done, step by step. -/
inductive Program (α : Type) where
  | done (value : α)
  | stop (ending : Ending)
  | say (line : String) (next : Program α)
  | readText (path : String) (next : Except ReadFault String → Program α)
  | send (request : ApiRequest) (next : Except String ApiReply → Program α)

namespace Program

/-- Goes on where a program comes to its end. -/
def bind {α β : Type} (f : α → Program β) : Program α → Program β
  | done value => f value
  | stop ending => stop ending
  | say line next => say line (bind f next)
  | readText path next => readText path (fun reply => bind f (next reply))
  | send request next => send request (fun reply => bind f (next reply))

instance : Monad Program where
  pure := done
  bind p f := bind f p

def print (line : String) : Program Unit := say line (done ())

def printAll (lines : List String) : Program Unit := lines.forM print

def exit {α : Type} (status : Nat) : Program α := stop (.exit status)

/-- Breaks off where there is a fault. -/
def ofExcept {ε α : Type} (toFault : ε → CommandFault) : Except ε α → Program α
  | .ok value => done value
  | .error fault => stop (.fault (toFault fault))

/-! ## Running -/

/-- What surrounds a program. -/
structure World where
  /-- what reading a file brings -/
  read : String → Except ReadFault String
  /-- what a request brings -/
  answer : ApiRequest → Except String ApiReply
  /-- the encoding of the output -/
  output : Text.Codec

/-- What is seen of a program: the lines that it prints, the requests that it sends, its end. -/
structure Transcript (α : Type) where
  lines : List String
  requests : List ApiRequest
  /-- the value that it comes to, or how it ends before that -/
  result : Except Ending α

/-- Runs a program in a world. -/
def run {α : Type} (w : World) : Program α → Transcript α
  | done value => ⟨[], [], .ok value⟩
  | stop ending => ⟨[], [], .error ending⟩
  | say line next =>
    if w.output.takesText line then
      let t := run w next
      { t with lines := line :: t.lines }
    -- nothing of the line is written, and what was written before stays
    else ⟨[], [], .error (.fault (.unprintable (w.output.refusal line)))⟩
  | readText path next => run w (next (w.read path))
  | send request next =>
    let t := run w (next (w.answer request))
    { t with requests := request :: t.requests }

/-- What a run amounts to when what was seen before it is put in front. -/
def Transcript.after {α β : Type} (before : Transcript β) (t : Transcript α) : Transcript α :=
  ⟨before.lines ++ t.lines, before.requests ++ t.requests, t.result⟩

/-- A program that follows another begins where that one comes to its end, and not at all if that
one ends before. -/
theorem run_bind {α β : Type} (w : World) (p : Program α) (f : α → Program β) :
    run w (p >>= f) =
      match (run w p).result with
      | .ok value => (run w p).after (run w (f value))
      | .error ending => ⟨(run w p).lines, (run w p).requests, .error ending⟩ := by
  -- what happens before the first program ends is seen either way
  change run w (bind f p) = _
  induction p with
  | done value => simp [bind, run, Transcript.after]
  | stop ending => rfl
  | say line next ih =>
    cases htakes : w.output.takesText line with
    | true =>
      simp only [bind, run, htakes, if_true, ih]
      split <;> simp [Transcript.after]
    | false => simp [bind, run, htakes]
  | readText path next ih => simpa only [bind, run] using ih _
  | send request next ih =>
    simp only [bind, run, ih]
    split <;> simp [Transcript.after]

def Transcript.ending {α : Type} (t : Transcript α) : Ending :=
  match t.result with
  | .ok _ => .finished
  | .error ending => ending

def Transcript.status {α : Type} (t : Transcript α) : Nat := t.ending.status

def Transcript.output {α : Type} (t : Transcript α) : String :=
  String.join (t.lines.map (· ++ "\n"))

end Program

end UiSurface
