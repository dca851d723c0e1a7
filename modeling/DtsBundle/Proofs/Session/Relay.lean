import DtsBundle.Proofs.Session.Status
import DtsBundle.Proofs.Text.Utf8
/-!
# What is passed on of a compiler that failed

A compiler that fails says why on its own two streams, and the program passes both on: output to output, and errors to
errors, between the log up to there and the line that tells of the failure.  What is passed on has been read as a text, so
**a stream comes through as it is just when it is the bytes of a text** (`execute_relays`).  Of any other, each piece that
cannot be read comes through as the three bytes of U+FFFD; `execute_relays_replaced` is a run of this kind.
-/
namespace DtsBundle.Session

/-- The line of the log that tells of a compiler that failed. -/
def failure (completion : Completion) : Event :=
  .failed ("Compiler failed with ".toList ++ EmitError.statusText completion.status)

/-- What the end of a program passes on of its compiler, given the log up to the failure. -/
structure Relays (time : Text) (environment : Environment) (options : Options) (log : List Event) (completion : Completion)
    (exit : Exit) : Prop where
  output : exit.output = Text.utf8 (Text.ofUtf8Lossy completion.output)
  errors : exit.errors = Text.utf8 (logText time environment options log) ++
    Text.utf8 (Text.ofUtf8Lossy completion.errors) ++ Text.utf8 (logText time environment options [failure completion])
  output_verbatim : exit.output = completion.output ↔ ∃ text, Text.utf8 text = completion.output
  errors_verbatim : exit.errors = Text.utf8 (logText time environment options log) ++ completion.errors ++
      Text.utf8 (logText time environment options [failure completion]) ↔
    ∃ text, Text.utf8 text = completion.errors

theorem failed_chain (completion : Completion) : Event.failed (compilerError completion).chain = failure completion := by
  have hcauses : (compilerError completion).causes =
      ["Compiler failed with ".toList ++ EmitError.statusText completion.status] := rfl
  unfold RunError.chain failure
  rw [hcauses, List.intercalate_singleton]

variable {host : Host} {options : Options} {files : FileSystem} {environment : Environment}

theorem conclude_relays (time : Text) (environment : Environment) (options : Options) (completion : Completion)
    (world : World) :
    Relays time environment options world.log completion
      (conclude time environment options (.error (compilerError completion) world)).1 := by
  have houtput : (conclude time environment options (.error (compilerError completion) world)).1.output =
      Text.utf8 (Text.ofUtf8Lossy completion.output) := rfl
  have herrors : (conclude time environment options (.error (compilerError completion) world)).1.errors =
      Text.utf8 (logText time environment options world.log) ++ Text.utf8 (Text.ofUtf8Lossy completion.errors) ++
        Text.utf8 (logText time environment options [failure completion]) := by
    rw [← Text.utf8_append, ← Text.utf8_append, ← failed_chain]
    rfl
  refine ⟨houtput, herrors, ?_, ?_⟩
  · rw [houtput]
    exact Text.utf8_ofUtf8Lossy_eq_iff
  · rw [herrors, List.append_left_inj, List.append_right_inj]
    exact Text.utf8_ofUtf8Lossy_eq_iff

theorem relays_of_compiles {start : Start} {completion : Completion} {left : FileSystem} (time : Text)
    (environment : Environment) (hcompiles : Compiles host options files start completion left)
    (hfailed : completion.succeeded = false) :
    (Run.final (run host options (World.of files))).starts = [start] ∧
      Relays time environment options (Run.final (run host options (World.of files))).log completion
        (conclude time environment options (run host options (World.of files))).1 := by
  have hcourse : Course host options (World.of files).files _ left [start] := course_of_compiles hcompiles hfailed
  obtain ⟨houtcome, -, hstarts⟩ := run_of_course hcourse
  refine ⟨hstarts, ?_⟩
  rw [Run.eq_error_of_outcome houtcome]
  exact conclude_relays time environment options completion _

/-- **A compiler that was started and failed is relayed, verbatim just where it wrote text.** -/
theorem execute_relays {arguments : List Text} {start : Start} {completion : Completion} {left : FileSystem} (time : Text)
    (h : CommandLine.parse environment arguments = .ok options)
    (hcompiles : Compiles host options files start completion left) (hfailed : completion.succeeded = false) :
    ∃ exit world, execute host time environment arguments files = .ok (exit, world) ∧ world.starts = [start] ∧
      Relays time environment options world.log completion exit := by
  obtain ⟨hstarts, hrelays⟩ := relays_of_compiles time environment hcompiles hfailed
  exact ⟨_, _, execute_of_parsed h, hstarts, hrelays⟩

/-- A compiler that fails with a word on each stream. -/
def worded : Completion :=
  ⟨some 2, Text.utf8 "unité".toList, Text.utf8 "erreur".toList⟩

theorem execute_relays_worded :
    CommandLine.parse ⟨none, none⟩ soleArguments = .ok soleOptions ∧ worded.succeeded = false ∧
      ∃ start left exit world,
        Compiles (Emission.hostWith (ending worded)) soleOptions soleFiles start worded left ∧
          execute (Emission.hostWith (ending worded)) [] ⟨none, none⟩ soleArguments soleFiles = .ok (exit, world) ∧
          world.starts = [start] ∧ Relays [] ⟨none, none⟩ soleOptions world.log worded exit ∧
          exit.output = worded.output := by
  have hparse := parse_soleArguments ⟨none, none⟩
  obtain ⟨start, left, hcompiles⟩ := compiles_sole worded
  obtain ⟨exit, world, hexecute, hstarts, hrelays⟩ := execute_relays [] hparse hcompiles rfl
  have houtput : exit.output = worded.output := hrelays.output_verbatim.2 ⟨_, rfl⟩
  exact ⟨hparse, rfl, start, left, exit, world, hcompiles, hexecute, hstarts, hrelays, houtput⟩

/-- A compiler that fails with a byte on each stream that belongs to no text. -/
def garbled : Completion :=
  ⟨some 2, [0xFF], [0xFE]⟩

/-- **What is not text is not relayed**: other bytes stand in its place, on both streams. -/
theorem execute_relays_replaced :
    ∃ start left exit world,
      Compiles (Emission.hostWith (ending garbled)) soleOptions soleFiles start garbled left ∧
        execute (Emission.hostWith (ending garbled)) [] ⟨none, some "off".toList⟩ soleArguments soleFiles =
          .ok (exit, world) ∧
        world.starts = [start] ∧ garbled.succeeded = false ∧ exit.output = [0xEF, 0xBF, 0xBD] ∧
        exit.output ≠ garbled.output ∧ exit.errors = [0xEF, 0xBF, 0xBD] ∧ exit.errors ≠ garbled.errors := by
  have hparse := parse_soleArguments ⟨none, some "off".toList⟩
  obtain ⟨start, left, hcompiles⟩ := compiles_sole garbled
  obtain ⟨hstarts, -⟩ := relays_of_compiles [] ⟨none, some "off".toList⟩ hcompiles rfl
  have hexit : (conclude [] ⟨none, some "off".toList⟩ soleOptions
      (run (Emission.hostWith (ending garbled)) soleOptions (World.of soleFiles))).1 =
        ⟨2, [0xEF, 0xBF, 0xBD], [0xEF, 0xBF, 0xBD]⟩ := by decide +kernel
  refine ⟨start, left, _, _, hcompiles, execute_of_parsed hparse, hstarts, rfl, ?_⟩
  rw [hexit]
  decide

end DtsBundle.Session
