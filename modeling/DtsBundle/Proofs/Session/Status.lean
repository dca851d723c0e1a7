import DtsBundle.Proofs.Session.Course
/-!
# The exit status

Whoever starts the program learns of its run by one number.  It is 0 when the session went well and only then.  When a
compiler was started and failed, it is the status of the compiler, as long as that is one from 1 to 255; for every other
failure it is 1.  **No failure can be taken for a success** (`RunError.status_bounds`), whatever number the compiler ended
with: what does not fit is brought into the range before it is made a byte, and not cut off.
-/
namespace DtsBundle

theorem Completion.succeeded_eq_false_iff {completion : Completion} :
    completion.succeeded = false ↔ completion.status ≠ some 0 := by
  unfold succeeded
  exact beq_eq_false_iff_ne

namespace RunError

/-! ## The status of an error -/

theorem status_bounds (error : RunError) : 1 ≤ error.status ∧ error.status ≤ 255 := by
  unfold status
  cases error with
  | layout filename error =>
    dsimp only
    omega
  | emit error =>
    dsimp only
    omega

theorem status_of_exited {code : Nat} (hlow : 1 ≤ code) (hhigh : code ≤ 255) (output errors : Text) :
    (emit (.compilerFailed (some code) output errors)).status = code := by
  have hcode : EmitError.exitCode (.compilerFailed (some code) output errors) = code := by
    unfold EmitError.exitCode
    by_cases hzero : (code : Int) = 0
    · omega
    · exact if_neg hzero
  unfold status
  dsimp only
  rw [hcode]
  omega

theorem status_of_other {error : RunError}
    (h : ∀ status output errors, error ≠ emit (.compilerFailed status output errors)) : error.status = 1 := by
  unfold status
  cases error with
  | layout filename error => rfl
  | emit error =>
    cases error with
    | compilerFailed status output errors => exact absurd rfl (h status output errors)
    | _ => rfl

end RunError

namespace Session

variable (host : Host) (options : Options) (files : FileSystem)

/-! ## What the status tells -/

/-- What the status with which a program ends tells of its run, and what its run has started. -/
structure StatusTells (exit : Exit) (world : World) : Prop where
  success : exit.status = 0 ↔
    (∃ unit, Run.outcome (run host options (World.of files)) = .ok (.printed unit)) ∨
      ∃ emitted, Run.outcome (run host options (World.of files)) = .ok (.emitted emitted)
  started : ∀ start, start ∈ world.starts ↔ ∃ completion left, Compiles host options files start completion left
  failed : (∃ status output errors,
      Run.outcome (run host options (World.of files)) = .error (.emit (.compilerFailed status output errors))) ↔
    ∃ start completion left, Compiles host options files start completion left ∧ completion.succeeded = false
  exited : ∀ start completion left, ∀ code : Nat, Compiles host options files start completion left →
    completion.status = some (code : Int) → 1 ≤ code → code ≤ 255 → exit.status = code
  killed : ∀ start completion left, Compiles host options files start completion left → completion.status = none →
    exit.status = 1
  other : ∀ error, Run.outcome (run host options (World.of files)) = .error error →
    (∀ status output errors, error ≠ .emit (.compilerFailed status output errors)) → exit.status = 1
  byte : exit.status ≤ 255

variable {host options files}

section Conclude

variable {time : Text} {environment : Environment} {result : EStateM.Result RunError World Outcome}

theorem status_conclude_of_ok {outcome : Outcome} (h : Run.outcome result = .ok outcome) :
    (conclude time environment options result).1.status = 0 := by
  rw [Run.eq_ok_of_outcome h]
  rfl

theorem status_conclude_of_error {error : RunError} (h : Run.outcome result = .error error) :
    (conclude time environment options result).1.status = error.status := by
  rw [Run.eq_error_of_outcome h]
  rfl

theorem status_conclude_eq_zero_iff :
    (conclude time environment options result).1.status = 0 ↔
      (∃ unit, Run.outcome result = .ok (.printed unit)) ∨ ∃ emitted, Run.outcome result = .ok (.emitted emitted) := by
  cases houtcome : Run.outcome result with
  | ok outcome =>
    refine iff_of_true (status_conclude_of_ok houtcome) ?_
    cases outcome with
    | printed unit => exact .inl ⟨unit, rfl⟩
    | emitted emitted => exact .inr ⟨emitted, rfl⟩
  | error error =>
    obtain ⟨hlow, -⟩ := error.status_bounds
    rw [status_conclude_of_error houtcome]
    refine iff_of_false (by omega) ?_
    rintro (⟨unit, h⟩ | ⟨emitted, h⟩) <;> cases h

theorem status_conclude_le (time : Text) (environment : Environment) (options : Options)
    (result : EStateM.Result RunError World Outcome) : (conclude time environment options result).1.status ≤ 255 := by
  cases houtcome : Run.outcome result with
  | ok outcome =>
    rw [status_conclude_of_ok houtcome]
    exact Nat.zero_le 255
  | error error =>
    rw [status_conclude_of_error houtcome]
    exact error.status_bounds.2

theorem conclude_eq (time : Text) (environment : Environment) (options : Options)
    (result : EStateM.Result RunError World Outcome) :
    conclude time environment options result = ((conclude time environment options result).1, Run.final result) := by
  cases result <;> rfl

theorem execute_of_parsed {arguments : List Text} (h : CommandLine.parse environment arguments = .ok options) :
    execute host time environment arguments files =
      .ok ((conclude time environment options (run host options (World.of files))).1,
        Run.final (run host options (World.of files))) := by
  unfold execute
  rw [h, ← conclude_eq]

end Conclude

theorem outcome_of_compiles {start : Start} {completion : Completion} {left : FileSystem}
    (h : Compiles host options files start completion left) (hfailed : completion.succeeded = false) :
    Run.outcome (run host options (World.of files)) = .error (compilerError completion) :=
  (run_of_course (course_of_compiles h hfailed)).1

theorem mem_starts_iff (start : Start) :
    start ∈ (Run.final (run host options (World.of files))).starts ↔
      ∃ completion left, Compiles host options files start completion left := by
  obtain ⟨starts, hcourse, hstarts⟩ := course_of_run host options (World.of files)
  have hall : (Run.final (run host options (World.of files))).starts = starts := hstarts
  rw [hall]
  rcases starts_of_course hcourse with ⟨only, completion, left, rfl, hcompiles⟩ | ⟨rfl, hnone⟩
  · constructor
    · intro hm
      obtain rfl := List.mem_singleton.1 hm
      exact ⟨completion, left, hcompiles⟩
    · rintro ⟨completion', left', hcompiles'⟩
      obtain ⟨rfl, -, -⟩ := hcompiles.unique hcompiles'
      exact List.mem_singleton_self start
  · constructor
    · exact fun hm => absurd hm List.not_mem_nil
    · rintro ⟨completion, left, hcompiles⟩
      exact absurd hcompiles (hnone start completion left)

theorem compilerFailed_iff :
    (∃ status output errors,
        Run.outcome (run host options (World.of files)) = .error (.emit (.compilerFailed status output errors))) ↔
      ∃ start completion left, Compiles host options files start completion left ∧ completion.succeeded = false := by
  constructor
  · rintro ⟨status, output, errors, houtcome⟩
    obtain ⟨starts, hcourse, -⟩ := course_of_run host options (World.of files)
    rw [houtcome] at hcourse
    obtain ⟨start, completion, -, hcompiles, hfailed, -⟩ := compiles_of_course hcourse
    exact ⟨start, completion, _, hcompiles, hfailed⟩
  · rintro ⟨start, completion, left, hcompiles, hfailed⟩
    exact ⟨_, _, _, outcome_of_compiles hcompiles hfailed⟩

theorem statusTells_conclude (host : Host) (time : Text) (environment : Environment) (options : Options)
    (files : FileSystem) :
    StatusTells host options files (conclude time environment options (run host options (World.of files))).1
      (Run.final (run host options (World.of files))) where
  success := status_conclude_eq_zero_iff
  started := mem_starts_iff
  failed := compilerFailed_iff
  exited := fun start completion left code hcompiles hstatus hlow hhigh => by
    have hfailed : completion.succeeded = false := by
      rw [Completion.succeeded_eq_false_iff, hstatus]
      intro h
      have hzero : (code : Int) = 0 := Option.some.inj h
      omega
    rw [status_conclude_of_error (outcome_of_compiles hcompiles hfailed), compilerError, hstatus]
    exact RunError.status_of_exited hlow hhigh _ _
  killed := fun start completion left hcompiles hstatus => by
    have hfailed : completion.succeeded = false := by
      rw [Completion.succeeded_eq_false_iff, hstatus]
      exact nofun
    rw [status_conclude_of_error (outcome_of_compiles hcompiles hfailed), compilerError, hstatus]
    rfl
  other := fun error houtcome hother => by
    rw [status_conclude_of_error houtcome]
    exact RunError.status_of_other hother
  byte := status_conclude_le _ _ _ _

/-- **The status of a program tells the truth about its run**, and whatever status a failed compiler had, what is made of
it is not that of success and fits into a byte. -/
theorem execute_statusTells {environment : Environment} {arguments : List Text} (time : Text)
    (h : CommandLine.parse environment arguments = .ok options) :
    (∃ exit world, execute host time environment arguments files = .ok (exit, world) ∧
        StatusTells host options files exit world) ∧
      ∀ status output errors, 1 ≤ (RunError.emit (.compilerFailed status output errors)).status ∧
        (RunError.emit (.compilerFailed status output errors)).status ≤ 255 := by
  refine ⟨⟨_, _, execute_of_parsed h, statusTells_conclude host time environment options files⟩, ?_⟩
  exact fun status output errors => RunError.status_bounds _

/-! ## A session with a compiler that fails -/

/-- A compiler that changes nothing and ends in one way. -/
def ending (completion : Completion) : Compiler :=
  fun _ _ files => (completion, files)

/-- A package of one module and its layout. -/
def soleFiles : FileSystem :=
  Emission.smallFiles
    [Emission.smallSource "l.json" "\x7b\"a\":\"a\"\x7d", Emission.smallSource "a.ts" "export var x = 1;\n"]

/-- The command line that emits that package. -/
def soleArguments : List Text :=
  ["-n".toList, "p".toList, "-f".toList, "l.json".toList, "--tsc".toList, "/tsc".toList]

/-- What that command line asks for. -/
def soleOptions : Options where
  name := "p".toList
  filename := "l.json".toList
  dir := ".".toList
  tsc := "/tsc".toList
  printUnit := false
  strict := false
  verbose := false
  debug := false

theorem parse_soleArguments (environment : Environment) :
    CommandLine.parse environment soleArguments = .ok soleOptions := by
  rfl

theorem compiles_sole (completion : Completion) :
    ∃ start left, Compiles (Emission.hostWith (ending completion)) soleOptions soleFiles start completion left :=
  ⟨_, _, _, ⟨rfl, rfl⟩, rfl, .intro rfl rfl rfl rfl⟩

theorem execute_statusTells_exited :
    CommandLine.parse ⟨none, none⟩ soleArguments = .ok soleOptions ∧
      ∃ exit world,
        execute (Emission.hostWith (ending ⟨some 3, [], []⟩)) [] ⟨none, none⟩ soleArguments soleFiles = .ok (exit, world) ∧
          StatusTells (Emission.hostWith (ending ⟨some 3, [], []⟩)) soleOptions soleFiles exit world ∧ exit.status = 3 := by
  have hparse := parse_soleArguments ⟨none, none⟩
  obtain ⟨⟨exit, world, hexecute, htells⟩, -⟩ := execute_statusTells [] hparse
  obtain ⟨start, left, hcompiles⟩ := compiles_sole ⟨some 3, [], []⟩
  have hstatus : exit.status = 3 := htells.exited start _ left 3 hcompiles rfl (by decide) (by decide)
  exact ⟨hparse, exit, world, hexecute, htells, hstatus⟩

end Session
end DtsBundle
