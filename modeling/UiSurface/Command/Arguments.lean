import UiSurface.Record

/-!
# Arguments — what the words of the command line say

The first word that is no option names the command, the next its operand.  An option may stand
anywhere; one that takes a value takes the word after it, whatever that is.

Main lemmas: `readFrom_option`, `readFrom_switch` (an option takes its own words and no others).
-/

namespace UiSurface

/-! ## Commands -/

/-- What can be asked for. -/
inductive Command where
  | validate
  | view
  | push
  | save
  | designs
  | pushDesign
  | devices
deriving DecidableEq

namespace Command

def name : Command → String
  | validate => "validate"
  | view => "view"
  | push => "push"
  | save => "save"
  | designs => "designs"
  | pushDesign => "push-design"
  | devices => "devices"

def all : List Command := [validate, view, push, save, designs, pushDesign, devices]

def ofName? (word : String) : Option Command := all.find? (fun c => c.name == word)

/-- Whether the operand of a command is a file that holds a batch. -/
def takesFile : Command → Bool
  | validate | view | push | save => true
  | designs | pushDesign | devices => false

/-- Whether the operand of a command is the id of a design. -/
def takesId : Command → Bool
  | pushDesign => true
  | _ => false

theorem ofName?_name (c : Command) : ofName? c.name = some c := by cases c <;> decide +kernel

end Command

/-! ## Options -/

/-- An option that takes a value. -/
inductive ValueOption where
  | apiUrl
  | device
  | id
  | data
deriving DecidableEq

namespace ValueOption

def flag : ValueOption → String
  | apiUrl => "--api-url"
  | device => "--device"
  | id => "--id"
  | data => "--data"

/-- What an option takes. -/
def valueName : ValueOption → String
  | apiUrl => "a URL"
  | device | id => "an ID"
  | data => "a FILE"

def ofFlag? (word : String) : Option ValueOption :=
  [apiUrl, device, id, data].find? (fun o => o.flag == word)

theorem ofFlag?_flag (o : ValueOption) : ofFlag? o.flag = some o := by cases o <;> decide +kernel

end ValueOption

/-- An option that takes no value. -/
inductive Switch where
  | live
  | help
  | version
deriving DecidableEq

namespace Switch

def flags : Switch → List String
  | live => ["--live"]
  | help => ["--help", "-h"]
  | version => ["--version", "-v"]

def ofFlag? (word : String) : Option Switch :=
  [live, help, version].find? (fun s => s.flags.contains word)

end Switch

/-! ## Arguments -/

/-- What the words of the command line say. -/
structure Arguments where
  command : Option Command
  /-- the file that holds the batch -/
  file : Option String
  designId : Option String
  /-- the file that holds the overlay -/
  dataFile : Option String
  live : Bool
  deviceId : Option String
  apiUrl : Option String
  showHelp : Bool
  showVersion : Bool
deriving DecidableEq

/-- Why words say nothing. -/
inductive ArgumentFault where
  | missingValue (option : ValueOption)
  | unknownOption (word : String)
  | unknownCommand (word : String)
deriving DecidableEq

namespace ArgumentFault

def advice : String := "Run 'a2ui --help' for usage."

def lines : ArgumentFault → List String
  | missingValue option => ["Error: " ++ option.flag ++ " requires " ++ option.valueName]
  | unknownOption word => ["Unknown option: " ++ word, advice]
  | unknownCommand word => ["Unknown command: " ++ word, advice]

end ArgumentFault

namespace Arguments

/-- What no words say. -/
def empty : Arguments := ⟨none, none, none, none, false, none, none, false, false⟩

/-- Sets the value of an option; the last value counts. -/
def setValue (a : Arguments) (option : ValueOption) (value : String) : Arguments :=
  match option with
  | .apiUrl => { a with apiUrl := some value }
  | .device => { a with deviceId := some value }
  | .id => { a with designId := some value }
  | .data => { a with dataFile := some value }

def setSwitch (a : Arguments) : Switch → Arguments
  | .live => { a with live := true }
  | .help => { a with showHelp := true }
  | .version => { a with showVersion := true }

/-- Takes a word that is no option: the command, or the operand that the command still wants. -/
def takeOperand (a : Arguments) (word : String) : Except ArgumentFault Arguments :=
  match a.command with
  | none => match Command.ofName? word with
    | some command => .ok { a with command := some command }
    | none => .error (.unknownCommand word)
  | some command =>
    if command.takesFile && a.file.isNone then .ok { a with file := some word }
    else if command.takesId && a.designId.isNone then .ok { a with designId := some word }
    else .error (.unknownCommand word)

/-- Takes a word that is no option of this program. -/
def takeWord (a : Arguments) (word : String) : Except ArgumentFault Arguments :=
  if word.toList.head? = some '-' then .error (.unknownOption word) else a.takeOperand word

/-- Reads words on top of what others have said. -/
def readFrom (a : Arguments) : List String → Except ArgumentFault Arguments
  | [] => .ok a
  | word :: rest =>
    match ValueOption.ofFlag? word, Switch.ofFlag? word with
    -- the next word is the value, even if it looks like an option
    | some option, _ => match rest with
      | [] => .error (.missingValue option)
      | value :: rest => readFrom (a.setValue option value) rest
    | none, some switch => readFrom (a.setSwitch switch) rest
    | none, none => match a.takeWord word with
      | .ok a => readFrom a rest
      | .error fault => .error fault

/-- Reads the words of the command line (`parse_args`). -/
def read (words : List String) : Except ArgumentFault Arguments := empty.readFrom words

/-- An option and what follows it are read as the option with its value. -/
theorem readFrom_option (a : Arguments) (option : ValueOption) (value : String)
    (rest : List String) :
    a.readFrom (option.flag :: value :: rest) = (a.setValue option value).readFrom rest := by
  rw [readFrom, ValueOption.ofFlag?_flag]

/-- The words of a switch set it, wherever they stand. -/
theorem readFrom_switch (a : Arguments) (switch : Switch) (word : String) (rest : List String)
    (h : word ∈ switch.flags) : a.readFrom (word :: rest) = (a.setSwitch switch).readFrom rest := by
  have key : ValueOption.ofFlag? word = none ∧ Switch.ofFlag? word = some switch := by
    cases switch <;> simp only [Switch.flags, List.mem_cons, List.not_mem_nil, or_false] at h
    · subst h
      decide +kernel
    · rcases h with rfl | rfl <;> decide +kernel
    · rcases h with rfl | rfl <;> decide +kernel
  -- no switch is mistaken for an option with a value
  rw [readFrom, key.1, key.2]

end Arguments

end UiSurface
