import UiSurface.Command.Entry
import UiSurface.Command.Files
import UiSurface.Proofs.Ascii
import UiSurface.Proofs.Live
import UiSurface.Proofs.Placing

/-!
# The status of a checked file

A file is checked as a complete batch or as a live one, and the status says how it went.  A complete
batch is judged by validation.  A live batch is applied to a store of its own, and the verdict is what
was skipped on the way: nothing is skipped exactly if no message has a structural problem.  Of an empty
batch nothing can be skipped, so it passes live, though validation finds a structural problem with it,
and though that problem is printed.

A live check prints the problems that are no reason to skip a message, too.  A problem may name an id that the
output has no characters for; then the program breaks off, which leaves the status of a batch that failed.

Main lemmas: `Program.result_bind_of_ok` and `Program.result_bind_of_error` (what two programs come to, one
after the other), `Command.read_checkingWords` (what the words say), `Store.skippedFrom_eq_nil_iff` (when nothing
is skipped), `Command.status_is_verdict_unless_live_and_empty_or_unprintable`.
-/

namespace UiSurface

/-! ## What programs come to -/

namespace Program

variable {α β : Type} {w : World}

/-- Behind a step that gives a value, a program goes on with it. -/
theorem result_bind_of_ok {p : Program α} {value : α} (h : (run w p).result = .ok value)
    (f : α → Program β) : (run w (p >>= f)).result = (run w (f value)).result := by
  rw [run_bind, h]
  rfl

/-- A program that ends at a step does not go on. -/
theorem result_bind_of_error {p : Program α} {ending : Ending} (h : (run w p).result = .error ending)
    (f : α → Program β) : (run w (p >>= f)).result = .error ending := by
  rw [run_bind, h]

/-- A program that breaks off. -/
def Breaks (w : World) (p : Program α) : Prop := ∃ fault, (run w p).result = .error (.fault fault)

/-- A program that breaks off at its beginning breaks off. -/
theorem Breaks.bind {p : Program α} (h : Breaks w p) (f : α → Program β) : Breaks w (p >>= f) := by
  rcases h with ⟨fault, h⟩
  exact ⟨fault, result_bind_of_error h f⟩

/-- A line that the output takes is printed. -/
theorem result_print {line : String} (h : w.output.takesText line = true) :
    (run w (print line)).result = .ok () := by
  simp [print, run, h]

/-- A line that the output does not take breaks the program off. -/
theorem breaks_print {line : String} (h : w.output.takesText line = false) : Breaks w (print line) :=
  ⟨.unprintable (w.output.refusal line), by simp [print, run, h]⟩

/-- Lines are printed if the output has them all; one that it does not have is enough to break off. -/
theorem result_printAll (w : World) (lines : List String) :
    ((∀ line ∈ lines, w.output.takesText line = true) ∧ (run w (printAll lines)).result = .ok ()) ∨
      ((¬ ∀ line ∈ lines, w.output.takesText line = true) ∧ Breaks w (printAll lines)) := by
  induction lines with
  | nil => exact Or.inl ⟨nofun, rfl⟩
  | cons line lines ih =>
    have hcons : printAll (line :: lines) = print line >>= fun _ => printAll lines := rfl
    rw [hcons]
    -- the first line that is not taken ends the printing
    cases hline : w.output.takesText line with
    | false =>
      refine Or.inr ⟨fun hall => ?_, (breaks_print hline).bind _⟩
      rw [hall line List.mem_cons_self] at hline
      cases hline
    | true =>
      have hrest := result_bind_of_ok (result_print hline) fun _ => printAll lines
      rcases ih with ⟨hlines, hresult⟩ | ⟨hlines, fault, hfault⟩
      · exact Or.inl ⟨List.forall_mem_cons.mpr ⟨hline, hlines⟩, hrest.trans hresult⟩
      · exact Or.inr ⟨fun hall => hlines (List.forall_mem_cons.mp hall).2, fault, hrest.trans hfault⟩

/-- A program that says whether all is well; where it is not, it may break off instead. -/
def Judges (w : World) (p : Program Bool) (well : Prop) : Prop :=
  (well ∧ (run w p).result = .ok true) ∨ (¬ well ∧ ((run w p).result = .ok false ∨ Breaks w p))

/-- A run that leaves the status zero if all is well, and one if not. -/
def Transcript.Tells (t : Transcript α) (well : Prop) : Prop :=
  (well ∧ t.status = 0) ∨ (¬ well ∧ t.status = 1)

end Program

/-! ## What is skipped -/

/-- Nothing is skipped of a batch exactly if no message has a structural problem. -/
theorem Store.skippedFrom_eq_nil_iff {vs : List Json} (hvs : vs ≠ []) :
    skippedFrom 0 vs = [] ↔ hasStructural (Validation.incremental (.arr vs)) = false := by
  constructor
  · intro hskipped
    rw [Validation.incremental_eq hvs, hasStructural_eq_false_iff]
    intro p hp
    obtain ⟨problems, hproblems, hp⟩ := List.mem_flatten.mp hp
    obtain ⟨e, he, rfl⟩ := List.mem_map.mp hproblems
    -- a message with such a problem would be among those that are skipped
    have hsound := List.filter_eq_nil_iff.mp (List.map_eq_nil_iff.mp hskipped) e he
    exact hasStructural_eq_false_iff.mp (Bool.eq_false_iff.mpr hsound) p hp
  · intro hsound
    exact (kept_of_sound hsound).2

/-- So it is in a live batch, unless it is empty: then there is nothing to be skipped. -/
theorem Store.skipped_eq_nil_iff (s : Store) (vs : List Json) :
    (s.applyLive (.arr vs)).2.skipped = [] ↔
      vs = [] ∨ hasStructural (Validation.incremental (.arr vs)) = false := by
  by_cases hvs : vs = []
  · subst hvs
    exact iff_of_true rfl (Or.inl rfl)
  · obtain ⟨ms, hms⟩ := exists_decodeAll_keptFrom 0 vs
    rw [s.applyLive_eq hvs hms, skippedFrom_eq_nil_iff hvs]
    simp [hvs]

/-! ## The words -/

namespace Command

open Program

/-- What is said by the words that ask for a file to be checked. -/
def checking (path : String) (live : Bool) : Arguments :=
  { Arguments.empty with command := some .validate, file := some path, live := live }

/-- The words that ask for a file to be checked. -/
def checkingWords (path : String) (live : Bool) : List String :=
  ["validate", path] ++ if live then ["--live"] else []

/-- The words say so, if the file is not named like an option. -/
theorem read_checkingWords {path : String} (h : path.toList.head? ≠ some '-') (live : Bool) :
    Arguments.read (checkingWords path live) = .ok (checking path live) := by
  have hcommand : Arguments.read (checkingWords path live) =
      (Arguments.empty.withCommand .validate).readFrom (path :: if live then ["--live"] else []) :=
    Arguments.readFrom_command rfl .validate _
  have hfile : (Arguments.empty.withCommand .validate).takeOperand path = .ok (checking path false) := rfl
  rw [hcommand, Arguments.readFrom_plain h hfile]
  cases live with
  | false => rfl
  | true => exact Arguments.readFrom_switch _ .live "--live" [] (by decide)

/-! ## The verdict -/

section Verdict

variable {w : World}

/-- The messages of a file are those of its text with its line ends unified. -/
theorem result_readMessages {path text : String} {messages : List Json} (hpath : '\x00' ∉ path.toList)
    (hread : w.read path = .ok text)
    (hmessages : Envelope.ofText (String.ofList (Text.unifyLineEnds text.toList)) = .ok messages) :
    (Program.run w (readMessages path)).result = .ok messages := by
  have hfile : (Program.run w (readFile path)).result =
      .ok (String.ofList (Text.unifyLineEnds text.toList)) := by
    simp [readFile, hpath, Program.run, hread]
  rw [readMessages, result_bind_of_ok hfile]
  simp only [hmessages]
  rfl

/-- A line that counts something is in ASCII, so every output has it. -/
theorem takes_count {before what : String} (hbefore : Text.IsAscii before.toList)
    (hwhat : Text.IsAscii what.toList) (n : Nat) :
    w.output.takesText (before ++ count n what) = true := by
  apply Text.Codec.takesText_of_ascii
  have hline : Text.IsAscii (before ++ count n what).toList := by
    simp [count, hbefore, hwhat, Number.isAscii_intText]
  intro c hc
  have := hline c hc
  omega

/-- To refuse a batch is to say that it is not well, or to break off over one of its problems. -/
theorem judges_refuse (problems : List Problem) {well : Prop} (h : ¬ well) :
    Judges w (refuse problems) well := by
  have hsays : w.output.takesText ("Invalid: " ++ count problems.length "error(s)") = true :=
    takes_count (by decide) (by decide) _
  have hrefuse := result_bind_of_ok (result_print hsays) fun _ =>
    printProblems problems >>= fun _ => (return false : Program Bool)
  refine Or.inr ⟨h, ?_⟩
  rcases result_printAll w (problems.map fun p => "  " ++ p.line) with ⟨-, hprinted⟩ | ⟨-, hbreaks⟩
  · exact Or.inl (hrefuse.trans (result_bind_of_ok hprinted _))
  · rcases hbreaks.bind fun _ => (return false : Program Bool) with ⟨fault, hfault⟩
    exact Or.inr ⟨fault, hrefuse.trans hfault⟩

/-- A complete batch is judged by validation. -/
theorem judges_validateComplete (messages : List Json) :
    Judges w (validateComplete messages) (Validation.complete (.arr messages) = []) := by
  unfold validateComplete
  cases Validation.complete (.arr messages) with
  | nil =>
    have hsays : w.output.takesText ("OK: " ++ count messages.length "message(s)") = true :=
      takes_count (by decide) (by decide) _
    exact Or.inl ⟨rfl, result_bind_of_ok (result_print hsays) _⟩
  | cons p ps => exact judges_refuse (p :: ps) (List.cons_ne_nil p ps)

/-- The last line of a live check says whether anything was skipped, and every output has it. -/
theorem result_liveVerdict (size : Nat) (report : Store.LiveReport) :
    (Program.run w (liveVerdict size report)).result = .ok report.skipped.isEmpty := by
  unfold liveVerdict
  cases report.skipped with
  | nil =>
    have hsays : w.output.takesText ("OK: " ++ count report.outcomes.length "message(s) applied") = true :=
      takes_count (by decide) (by decide) _
    exact result_bind_of_ok (result_print hsays) _
  | cons e es =>
    have hsays : w.output.takesText ("Invalid: " ++ Number.intText (e :: es).length ++ " of " ++
        count size "message(s) skipped") = true :=
      takes_count (by simp [Number.isAscii_intText]) (by decide) _
    exact result_bind_of_ok (result_print hsays) _

/-- A live batch is judged by what is skipped of it, once its problems are printed. -/
theorem judges_validateLive (messages : List Json) :
    Judges w (validateLive messages)
      ((messages = [] ∨ hasStructural (Validation.incremental (.arr messages)) = false) ∧
        ∀ p ∈ Validation.incremental (.arr messages), w.output.takesText ("  " ++ p.line) = true) := by
  rw [← (Store.empty true).skipped_eq_nil_iff,
    ← (Store.empty true).problems_applyLive (.arr messages)]
  unfold validateLive
  -- only the report matters from here, not how the batch was applied
  generalize ((Store.empty true).applyLive (.arr messages)).2 = report
  rw [← List.forall_mem_map (f := fun p : Problem => "  " ++ p.line)
    (P := fun line => w.output.takesText line = true)]
  rcases result_printAll w (report.problems.map fun p => "  " ++ p.line) with
    ⟨htaken, hprinted⟩ | ⟨hnot, hbreaks⟩
  · have hresult : (Program.run w (printProblems report.problems >>= fun _ =>
        liveVerdict messages.length report)).result = .ok report.skipped.isEmpty :=
      (result_bind_of_ok hprinted _).trans (result_liveVerdict _ _)
    cases hskipped : report.skipped with
    | nil => exact Or.inl ⟨⟨rfl, htaken⟩, hresult.trans (by rw [hskipped]; rfl)⟩
    | cons e es =>
      refine Or.inr ⟨fun hwell => List.cons_ne_nil e es hwell.1, Or.inl ?_⟩
      exact hresult.trans (by rw [hskipped]; rfl)
  · exact Or.inr ⟨fun hwell => hnot hwell.2, Or.inr (hbreaks.bind _)⟩

/-- The command leaves the status of the verdict on what is in the file. -/
theorem tells_entry (s : Surroundings) {path : String} {messages : List Json} (live : Bool) {well : Prop}
    (hpath : path.toList.head? ≠ some '-')
    (hread : (Program.run w (readMessages path)).result = .ok messages)
    (hjudges : Judges w (validateBatch live messages) well) :
    (Program.run w (entry s (checkingWords path live))).Tells well := by
  have harguments : arguments (checkingWords path live) = pure (checking path live) := by
    rw [arguments, read_checkingWords hpath live]
    rfl
  -- the command reads the file, judges the batch and ends with the verdict
  have hentry : entry s (checkingWords path live) =
      readMessages path >>= fun messages => validateBatch live messages >>= exitWith := by
    rw [entry, harguments]
    rfl
  have hbatch : (Program.run w (entry s (checkingWords path live))).result =
      (Program.run w (validateBatch live messages >>= exitWith (α := Unit))).result := by
    rw [hentry, result_bind_of_ok hread]
  unfold Transcript.Tells Transcript.status Transcript.ending
  rw [hbatch]
  rcases hjudges with ⟨hwell, hresult⟩ | ⟨hnot, hresult | ⟨fault, hfault⟩⟩
  · rw [result_bind_of_ok hresult]
    exact Or.inl ⟨hwell, rfl⟩
  · rw [result_bind_of_ok hresult]
    exact Or.inr ⟨hnot, rfl⟩
  · rw [result_bind_of_error hfault]
    exact Or.inr ⟨hnot, rfl⟩

end Verdict

/-- The status of a checked file is the verdict on the messages in it.  Whatever messages are read from a
file, which is not named like an option: the command leaves zero if validation of the complete batch finds
nothing, and one if it finds anything; told to check it live, it leaves zero if the batch is empty or
validation finds no structural problem in it, and the output has the lines of all problems that it does find,
and it leaves one otherwise. -/
theorem status_is_verdict_unless_live_and_empty_or_unprintable (s : Surroundings) (w : World)
    {path : String} {messages : List Json} (hpath : path.toList.head? ≠ some '-')
    (hread : (Program.run w (readMessages path)).result = .ok messages) :
    (Program.run w (entry s ["validate", path])).Tells (Validation.complete (.arr messages) = []) ∧
    (Program.run w (entry s ["validate", path, "--live"])).Tells
      ((messages = [] ∨ hasStructural (Validation.incremental (.arr messages)) = false) ∧
        ∀ p ∈ Validation.incremental (.arr messages), w.output.takesText ("  " ++ p.line) = true) :=
  ⟨tells_entry s false hpath hread (judges_validateComplete messages),
    tells_entry s true hpath hread (judges_validateLive messages)⟩

/-- A world with some files in it, an output in UTF-8, and nobody who answers. -/
def filesOnly (files : Record String) : World := ⟨Files.read files, fun _ => .error "refused", .utf8⟩

/-- An update with a row that names one child, as a text; the id of the child is given as the text has it. -/
def rowWith (child : String) : String :=
  "[\x7b\"updateComponents\": \x7b\"surfaceId\": \"tile\", \"components\": " ++
    "[\x7b\"id\": \"root\", \"component\": \"Row\", " ++
    "\"children\": \x7b\"explicitList\": [\"" ++ child ++ "\"]\x7d\x7d]\x7d\x7d]"

/-- The same as a batch. -/
def rowBatch (child : String) : List Json :=
  [.obj [("updateComponents", .obj [("surfaceId", .str "tile"),
    ("components", .arr [.obj [("id", .str "root"), ("component", .str "Row"),
      ("children", .obj [("explicitList", .arr [.str child])])]])])]]

/-- A batch that names a missing child: validation of the whole finds fault with it, and a live check
does not. -/
theorem missing_child_passes_live :
    let s : Surroundings := ⟨⟨2026, 10, 19, 15, 7⟩, none⟩
    let w := filesOnly [("part.json", rowWith "later")]
    "part.json".toList.head? ≠ some '-' ∧
      (Program.run w (readMessages "part.json")).result = .ok (rowBatch "later") ∧
      (Program.run w (entry s ["validate", "part.json"])).status = 1 ∧
      (Program.run w (entry s ["validate", "part.json", "--live"])).status = 0 := by
  intro s w
  have hpath : "part.json".toList.head? ≠ some '-' := by decide +kernel
  have hmessages : Envelope.ofText (String.ofList (Text.unifyLineEnds (rowWith "later").toList)) =
      .ok (rowBatch "later") := by
    rw [← Fallible.toOption_eq_some_iff]
    decide +kernel
  have hread : (Program.run w (readMessages "part.json")).result = .ok (rowBatch "later") :=
    result_readMessages (by decide +kernel) rfl hmessages
  obtain ⟨hcomplete, hlive⟩ :=
    status_is_verdict_unless_live_and_empty_or_unprintable s w hpath hread
  refine ⟨hpath, hread, ?_, ?_⟩
  · rcases hcomplete with ⟨hsound, -⟩ | ⟨-, hstatus⟩
    · exact absurd hsound (by decide +kernel)
    · exact hstatus
  · rcases hlive with ⟨-, hstatus⟩ | ⟨hbroken, -⟩
    · exact hstatus
    · exact absurd ⟨Or.inr (by decide +kernel), by decide +kernel⟩ hbroken

/-- An empty batch passes live, with the problem that validation has with it in the output.  And a batch
without a structural problem fails live where a child goes by half of a character. -/
theorem empty_batch_passes_live_and_half_a_character_fails :
    let s : Surroundings := ⟨⟨2026, 10, 19, 15, 7⟩, none⟩
    let w := filesOnly [("empty.json", "[]"), ("half.json", rowWith "\\ud800")]
    let half := rowBatch (String.ofList [Text.ofPoint 0xD800])
    ((Program.run w (readMessages "empty.json")).result = .ok [] ∧
      Program.run w (entry s ["validate", "empty.json", "--live"]) =
        ⟨["  [messages] Expected a non-empty array of messages", "OK: 0 message(s) applied"], [],
          .error (.exit 0)⟩ ∧
      hasStructural (Validation.incremental (.arr [])) = true) ∧
    (Program.run w (readMessages "half.json")).result = .ok half ∧
      (Program.run w (entry s ["validate", "half.json", "--live"])).status = 1 ∧
      hasStructural (Validation.incremental (.arr half)) = false := by
  intro s w half
  refine ⟨⟨rfl, rfl, rfl⟩, ?_⟩
  have hmessages : Envelope.ofText (String.ofList (Text.unifyLineEnds (rowWith "\\ud800").toList)) =
      .ok half := by
    rw [← Fallible.toOption_eq_some_iff]
    decide +kernel
  have hread : (Program.run w (readMessages "half.json")).result = .ok half :=
    result_readMessages (by decide +kernel) rfl hmessages
  refine ⟨hread, ?_, by decide +kernel⟩
  rcases tells_entry s true (by decide +kernel) hread (judges_validateLive half) with
    ⟨⟨-, hprinted⟩, -⟩ | ⟨-, hstatus⟩
  · exact absurd hprinted (by decide +kernel)
  · exact hstatus

end Command

end UiSurface
