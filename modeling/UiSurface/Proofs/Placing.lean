import Mathlib.Data.List.Basic
import Mathlib.Data.List.Induction
import UiSurface.Command.Arguments

/-!
# Placing — options stand anywhere on the command line

An invocation is a command, the operand that the command asks for, and options.  On the command line the
operand stands behind the command, and the options in front of them, between them and behind them.

An option takes its own words and no others.  So words are read by groups, and a value may look like an
option or a command, and an operand like a command.  What an option writes is nothing that a command or an
operand writes, with one exception: `--id` and the operand of `push-design` go to the same place.  But
`push-design` has no such option.  So it comes to the same where the options stand, and in which order.

Main lemmas: `readFrom_settings` (options are read by groups), `foldl_take_withOperand` (an operand may be
taken before the options in front of it), `value?_foldl_take` (what options leave behind),
`read_words`.
-/

namespace UiSurface

namespace Command

/-! ## What is documented -/

/-- Whether a command asks for an operand. -/
def takesOperand (c : Command) : Bool := c.takesFile || c.takesId

/-- The options with a value that a command is documented to take. -/
def takesOption : Command → ValueOption → Bool
  | _, .apiUrl => true
  | push, .device => true
  | save, .id => true
  | pushDesign, .data => true
  | _, _ => false

/-- No command takes an id both as its operand and by an option. -/
theorem takesOption_id {c : Command} (h : c.takesId = true) : c.takesOption .id = false := by
  cases c with
  | pushDesign => rfl
  | validate | view | push | save | designs | devices => cases h

/-- A word that does not begin with a hyphen is no option. -/
theorem ofFlag?_of_plain {word : String} (h : word.toList.head? ≠ some '-') :
    ValueOption.ofFlag? word = none ∧ Switch.ofFlag? word = none := by
  have hne : ∀ flag : String, flag.toList.head? = some '-' → flag ≠ word := by
    rintro flag hflag rfl
    exact h hflag
  constructor
  · rw [ValueOption.ofFlag?, List.find?_eq_none]
    intro option _
    have hflag : option.flag.toList.head? = some '-' := by cases option <;> decide +kernel
    simpa using hne _ hflag
  · rw [Switch.ofFlag?, List.find?_eq_none]
    intro switch _
    have hflags : ∀ flag ∈ switch.flags, flag.toList.head? = some '-' := by
      cases switch <;> decide +kernel
    rw [List.contains_iff_mem]
    exact fun hmem => hne word (hflags word hmem) rfl

end Command

/-- An option as it is given: the switch for a live check, or an option with its value. -/
inductive Setting where
  | live
  | given (option : ValueOption) (value : String)
deriving DecidableEq

/-- The words that give an option. -/
def Setting.words : Setting → List String
  | .live => ["--live"]
  | .given option value => [option.flag, value]

namespace Arguments

/-! ## Groups of words -/

def take (a : Arguments) : Setting → Arguments
  | .live => a.setSwitch .live
  | .given option value => a.setValue option value

def withCommand (a : Arguments) (c : Command) : Arguments := { a with command := some c }

/-- Takes an operand, if the command asks for one. -/
def withOperand (a : Arguments) (c : Command) (operand : Option String) : Arguments :=
  if c.takesFile then { a with file := operand }
  else if c.takesId then { a with designId := operand }
  else a

/-- An option is read, whatever stands behind it. -/
theorem readFrom_setting (a : Arguments) (s : Setting) (rest : List String) :
    a.readFrom (s.words ++ rest) = (a.take s).readFrom rest := by
  cases s with
  | live => exact readFrom_switch a .live "--live" rest List.mem_cons_self
  | given option value => exact readFrom_option a option value rest

/-- Options are read one after the other, each with its own words. -/
theorem readFrom_settings (a : Arguments) (settings : List Setting) (rest : List String) :
    a.readFrom (settings.flatMap Setting.words ++ rest) = (settings.foldl take a).readFrom rest := by
  induction settings generalizing a with
  | nil => rfl
  | cons s settings ih =>
    rw [List.flatMap_cons, List.append_assoc, readFrom_setting, ih, List.foldl_cons]

/-- A word that is no option is the command or the operand. -/
theorem readFrom_plain {a b : Arguments} {word : String} (hword : word.toList.head? ≠ some '-')
    (h : a.takeOperand word = .ok b) (rest : List String) :
    a.readFrom (word :: rest) = b.readFrom rest := by
  obtain ⟨hvalue, hswitch⟩ := Command.ofFlag?_of_plain hword
  have htake : a.takeWord word = .ok b := by rw [takeWord, if_neg hword, h]
  rw [readFrom, hvalue, hswitch]
  simp only [htake]

/-- The first word that is no option is the command. -/
theorem readFrom_command {a : Arguments} (h : a.command = none) (c : Command) (rest : List String) :
    a.readFrom (c.name :: rest) = (a.withCommand c).readFrom rest := by
  have hname : c.name.toList.head? ≠ some '-' := by cases c <;> decide +kernel
  refine readFrom_plain hname ?_ rest
  rw [takeOperand, h]
  simp only [Command.ofName?_name]
  rfl

/-- An operand goes where the command wants it, if nothing has been written there. -/
theorem readFrom_operand {a : Arguments} {c : Command} (hcommand : a.command = some c)
    (hfile : a.file = none) (hid : c.takesId = true → a.designId = none) {operand : Option String}
    (hoperand : operand.isSome = c.takesOperand) (hplain : ∀ word ∈ operand, word.toList.head? ≠ some '-')
    (rest : List String) :
    a.readFrom (operand.toList ++ rest) = (a.withOperand c operand).readFrom rest := by
  unfold Command.takesOperand at hoperand
  cases operand with
  | none =>
    obtain ⟨hnoFile, hnoId⟩ := Bool.or_eq_false_iff.mp hoperand.symm
    rw [withOperand, hnoFile, hnoId]
    rfl
  | some word =>
    refine readFrom_plain (hplain word rfl) ?_ rest
    unfold takeOperand withOperand
    cases hasFile : c.takesFile with
    | true => simp [hcommand, hasFile, hfile]
    | false =>
      have hasId : c.takesId = true := by simpa [hasFile] using hoperand
      simp [hcommand, hasFile, hasId, hid hasId]

/-! ## What options write -/

/-- What an option has been given. -/
def value? (a : Arguments) : ValueOption → Option String
  | .apiUrl => a.apiUrl
  | .device => a.deviceId
  | .id => a.designId
  | .data => a.dataFile

/-- An option keeps its own value only. -/
theorem value?_setValue (a : Arguments) (option other : ValueOption) (value : String) :
    (a.setValue option value).value? other = if option = other then some value else a.value? other := by
  cases option <;> cases other <;> rfl

/-- What no option writes. -/
def Unwritten (a b : Arguments) : Prop :=
  b.command = a.command ∧ b.file = a.file ∧ b.showHelp = a.showHelp ∧ b.showVersion = a.showVersion

/-- Options write nothing but options. -/
theorem foldl_take_frame (a : Arguments) (settings : List Setting) :
    Unwritten a (settings.foldl take a) := by
  induction settings generalizing a with
  | nil => exact ⟨rfl, rfl, rfl, rfl⟩
  | cons s settings ih =>
    have hstep : Unwritten a (a.take s) := by
      cases s with
      | live => exact ⟨rfl, rfl, rfl, rfl⟩
      | given option value => cases option <;> exact ⟨rfl, rfl, rfl, rfl⟩
    obtain ⟨hcommand, hfile, hhelp, hversion⟩ := ih (a.take s)
    exact ⟨hcommand.trans hstep.1, hfile.trans hstep.2.1, hhelp.trans hstep.2.2.1,
      hversion.trans hstep.2.2.2⟩

/-- The switch is set if it was, or if it is among the options. -/
theorem live_foldl_take (a : Arguments) (settings : List Setting) :
    (settings.foldl take a).live = true ↔ a.live = true ∨ .live ∈ settings := by
  induction settings generalizing a with
  | nil => simp
  | cons s settings ih =>
    rw [List.foldl_cons, ih, List.mem_cons]
    cases s with
    | live => simp [take, setSwitch]
    | given option value => cases option <;> simp [take, setValue]

/-- Each option has what it is given, or else what it had before. -/
theorem value?_foldl_take {settings : List Setting} {option : ValueOption} {value? : Option String}
    (h : ∀ value, .given option value ∈ settings ↔ value? = some value) (a : Arguments) :
    (settings.foldl take a).value? option = value?.or (a.value? option) := by
  induction settings using List.reverseRecOn with
  | nil =>
    have hnone : value? = none := Option.eq_none_iff_forall_ne_some.mpr fun value hvalue =>
      nomatch (h value).mpr hvalue
    rw [hnone]
    rfl
  | append_singleton settings s ih =>
    rw [List.foldl_concat]
    simp only [List.mem_append, List.mem_singleton] at h
    cases s with
    | live => exact ih (by simpa using h)
    | given other value =>
      rw [take, value?_setValue]
      by_cases hother : other = option
      · -- this is the last option to write there
        rw [if_pos hother, (h value).mp (Or.inr (hother ▸ rfl))]
        rfl
      · rw [if_neg hother]
        exact ih (by simpa [Ne.symm hother] using h)

/-- Options may be taken behind the command as well as in front of it. -/
theorem foldl_take_withCommand (a : Arguments) (c : Command) (settings : List Setting) :
    settings.foldl take (a.withCommand c) = (settings.foldl take a).withCommand c := by
  refine List.foldl_hom (fun a : Arguments => a.withCommand c) fun a s => ?_
  cases s with
  | live => rfl
  | given option value => cases option <;> rfl

/-- So they may behind the operand, unless one of them writes where that goes. -/
theorem foldl_take_withOperand {c : Command} {settings : List Setting}
    (h : c.takesId = true → ∀ value, .given .id value ∉ settings) (a : Arguments)
    (operand : Option String) :
    settings.foldl take (a.withOperand c operand) = (settings.foldl take a).withOperand c operand := by
  induction settings generalizing a with
  | nil => rfl
  | cons s settings ih =>
    simp only [List.mem_cons, not_or, forall_and] at h
    -- an option and the operand are written in different places, but for the id
    have hswap : (a.withOperand c operand).take s = (a.take s).withOperand c operand := by
      unfold withOperand
      cases s with
      | live =>
        repeat' split
        all_goals rfl
      | given option value =>
        split
        · cases option <;> rfl
        · split
          · rename_i hasId
            cases option with
            | id => exact absurd rfl (h.1 hasId value)
            | apiUrl | device | data => rfl
          · rfl
    rw [List.foldl_cons, hswap, ih h.2, List.foldl_cons]

/-- Arguments are told by what options leave alone, the switch, and the values. -/
theorem eq_of_unwritten {a b : Arguments} (h : Unwritten a b) (hlive : b.live = a.live)
    (hvalue : ∀ option, b.value? option = a.value? option) : b = a := by
  obtain ⟨hcommand, hfile, hhelp, hversion⟩ := h
  have hurl : b.apiUrl = a.apiUrl := hvalue .apiUrl
  have hdevice : b.deviceId = a.deviceId := hvalue .device
  have hid : b.designId = a.designId := hvalue .id
  have hdata : b.dataFile = a.dataFile := hvalue .data
  cases a
  cases b
  simp_all

end Arguments

/-! ## Invocations -/

/-- What is asked for in the ways that are documented: a command, the operand that it asks for, and options
that it takes. -/
structure Invocation where
  command : Command
  operand : Option String
  live : Bool
  /-- what each option is given -/
  value? : ValueOption → Option String
  operand_isSome : operand.isSome = command.takesOperand
  operand_plain : ∀ word ∈ operand, word.toList.head? ≠ some '-'
  live_documented : live = true → command = .validate
  value_documented : ∀ option value, value? option = some value → command.takesOption option = true

namespace Invocation

/-- These are the options of an invocation, in some order. -/
def Sets (i : Invocation) (settings : List Setting) : Prop :=
  (.live ∈ settings ↔ i.live = true) ∧
    ∀ option value, .given option value ∈ settings ↔ i.value? option = some value

/-- The words of an invocation, with options in front of the command, between that and the operand, and
behind. -/
def words (i : Invocation) (before between after : List Setting) : List String :=
  before.flatMap Setting.words ++ i.command.name ::
    (between.flatMap Setting.words ++ (i.operand.toList ++ after.flatMap Setting.words))

/-- What an invocation says. -/
def arguments (i : Invocation) : Arguments where
  command := some i.command
  file := if i.command.takesFile then i.operand else none
  designId := if i.command.takesId then i.operand else i.value? .id
  dataFile := i.value? .data
  live := i.live
  deviceId := i.value? .device
  apiUrl := i.value? .apiUrl
  showHelp := false
  showVersion := false

variable {i : Invocation} {settings : List Setting}

/-- The option that writes where the operand of `push-design` goes is none of that command. -/
theorem value?_id_of_takesId (h : i.command.takesId = true) : i.value? .id = none := by
  refine Option.eq_none_iff_forall_ne_some.mpr fun value hvalue => ?_
  have hdocumented := i.value_documented .id value hvalue
  rw [Command.takesOption_id h] at hdocumented
  cases hdocumented

/-- What an invocation says without its options. -/
def bare (i : Invocation) : Arguments :=
  (Arguments.empty.withCommand i.command).withOperand i.command i.operand

/-- Without its options, an invocation says what they do not write. -/
theorem unwritten_bare (i : Invocation) : Arguments.Unwritten i.arguments i.bare := by
  unfold bare arguments Arguments.withOperand
  cases i.command <;> exact ⟨rfl, rfl, rfl, rfl⟩

theorem live_bare (i : Invocation) : i.bare.live = false := by
  unfold bare Arguments.withOperand
  cases i.command <;> rfl

/-- Only the id of a design is given without an option. -/
theorem value?_bare (i : Invocation) (option : ValueOption) :
    i.bare.value? option = if option = .id ∧ i.command.takesId = true then i.operand else none := by
  unfold bare Arguments.withOperand
  cases i.command <;> cases option <;> rfl

/-- The options complete what the command and the operand say. -/
theorem value?_arguments (i : Invocation) (option : ValueOption) :
    i.arguments.value? option = (i.value? option).or (i.bare.value? option) := by
  rw [value?_bare]
  cases option with
  | apiUrl | device | data => simp [Arguments.value?, arguments]
  | id =>
    by_cases hasId : i.command.takesId = true
    · simp [Arguments.value?, arguments, hasId, value?_id_of_takesId hasId]
    · simp [Arguments.value?, arguments, hasId]

/-- What an invocation says is what its command and its operand say, with all of its options. -/
theorem foldl_take_bare (h : i.Sets settings) : settings.foldl Arguments.take i.bare = i.arguments := by
  obtain ⟨hcommand, hfile, hhelp, hversion⟩ := i.bare.foldl_take_frame settings
  obtain ⟨hcommand', hfile', hhelp', hversion'⟩ := i.unwritten_bare
  refine Arguments.eq_of_unwritten ⟨hcommand.trans hcommand', hfile.trans hfile', hhelp.trans hhelp',
    hversion.trans hversion'⟩ ?_ fun option => ?_
  · rw [Bool.eq_iff_iff, Arguments.live_foldl_take, live_bare, h.1]
    simp [arguments]
  · rw [Arguments.value?_foldl_take (h.2 option), value?_arguments]

/-- It does not matter where options stand, nor in which order.  Whatever options an invocation has, with
whatever values, and however they are dealt out in front of the command, between it and its operand, and
behind: the words are accepted, and say the command, the operand and the values of the options, and nothing
else. -/
theorem read_words (i : Invocation) {before between after : List Setting}
    (h : i.Sets (before ++ between ++ after)) :
    Arguments.read (i.words before between after) = .ok i.arguments := by
  -- a command that takes an id takes it as its operand, so it is not set
  have hnotId : i.command.takesId = true → ∀ value, .given .id value ∉ before ++ between ++ after := by
    intro hasId value hmem
    have hgiven := (h.2 .id value).mp hmem
    rw [value?_id_of_takesId hasId] at hgiven
    cases hgiven
  have hcommand : (before.foldl Arguments.take .empty).command = none :=
    (Arguments.foldl_take_frame _ _).1
  obtain ⟨hnamed, hfile, -⟩ :=
    (Arguments.empty.withCommand i.command).foldl_take_frame (before ++ between)
  -- no option before it has filled the place of the operand
  have hid : i.command.takesId = true →
      ((before ++ between).foldl Arguments.take (Arguments.empty.withCommand i.command)).designId = none := by
    intro hasId
    have hnone : ∀ value, .given .id value ∈ before ++ between ↔ none = some value := fun value =>
      iff_of_false (fun hmem => hnotId hasId value (List.mem_append_left after hmem)) nofun
    exact Arguments.value?_foldl_take hnone _
  calc Arguments.read (i.words before between after)
      = ((before.foldl Arguments.take .empty).withCommand i.command).readFrom
          (between.flatMap Setting.words ++ (i.operand.toList ++ after.flatMap Setting.words)) := by
        rw [Arguments.read, words, Arguments.readFrom_settings, Arguments.readFrom_command hcommand]
    _ = ((before ++ between).foldl Arguments.take (Arguments.empty.withCommand i.command)).readFrom
          (i.operand.toList ++ after.flatMap Setting.words) := by
        rw [← Arguments.foldl_take_withCommand, Arguments.readFrom_settings, List.foldl_append]
    _ = ((before ++ between).foldl Arguments.take i.bare).readFrom (after.flatMap Setting.words) := by
        rw [Arguments.readFrom_operand hnamed hfile hid i.operand_isSome i.operand_plain, bare,
          Arguments.foldl_take_withOperand fun hasId value hmem =>
            hnotId hasId value (List.mem_append_left after hmem)]
    _ = ((before ++ between ++ after).foldl Arguments.take i.bare).readFrom [] := by
        rw [← List.append_nil (after.flatMap Setting.words), Arguments.readFrom_settings,
          ← List.foldl_append]
    _ = .ok i.arguments := by rw [foldl_take_bare h]; rfl

/-- A device named like an option, an address and a file named like commands: each option stands in front of
the word that its value could be taken for. -/
theorem read_words_named_alike :
    let i : Invocation :=
      { command := .push
        operand := some "save"
        live := false
        value? := fun
          | .apiUrl => some "push"
          | .device => some "--live"
          | .id | .data => none
        operand_isSome := rfl
        operand_plain := by decide +kernel
        live_documented := nofun
        value_documented := fun option value h => by cases option <;> first | rfl | cases h }
    i.Sets ([.given .apiUrl "push"] ++ [.given .device "--live"] ++ []) ∧
      Arguments.read ["--api-url", "push", "push", "--device", "--live", "save"] =
        .ok ⟨some .push, some "save", none, none, false, some "--live", some "push", false, false⟩ := by
  intro i
  have hsets : i.Sets ([.given .apiUrl "push"] ++ [.given .device "--live"] ++ []) := by
    refine ⟨by simp [i], fun option value => ?_⟩
    cases option <;> simp [i, eq_comm]
  exact ⟨hsets, read_words i hsets⟩

end Invocation

end UiSurface
