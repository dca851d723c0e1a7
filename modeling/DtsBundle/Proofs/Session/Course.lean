import DtsBundle.Proofs.Session.Printing
/-!
# The course of a session

A session that has its layout and its package prints the package's unit or emits its declaration; before that it can fail
in two ways, and in an emission in all the ways an emission can.  `Course` has a rule for each, and **a session takes the
one course that is open to it** (`course_of_run`, `run_of_course`).  What a program tells of its run when it ends is read
off the rules.
-/
namespace DtsBundle.Session

variable (host : Host) (options : Options) (files : FileSystem)

/-- The package that a session has to print or to emit: what its layout assembles to. -/
inductive Prepared : Bundle → Prop
  | intro {layout : Layout} {bundle : Bundle} (hload : Layout.load files host.here options.filename = .ok layout)
    (hassemble : (((emitOptions options).sources host files).assemble options.name layout).2 = .ok bundle) :
    Prepared bundle

/-- The ways in which a session ends: what it gives, the files it leaves, and what it started. -/
inductive Course : Except RunError Outcome → FileSystem → List Start → Prop
  | unloaded {error : LayoutError} (hload : Layout.load files host.here options.filename = .error error) :
    Course (.error (.layout options.filename error)) files []
  | unassembled {layout : Layout} {error : BuildError} (hload : Layout.load files host.here options.filename = .ok layout)
    (hassemble : (((emitOptions options).sources host files).assemble options.name layout).2 = .error error) :
    Course (.error (.emit (.build error))) files []
  | printed {bundle : Bundle} (hprepared : Prepared host options files bundle) (hprint : options.printUnit = true) :
    Course (.ok (.printed bundle.text)) files []
  | failed {bundle : Bundle} {error : EmitError} {after : FileSystem} {starts : List Start}
    (hprepared : Prepared host options files bundle) (hprint : options.printUnit = false)
    (hcourse : Emission.Course host (emitOptions options) bundle files (.error error) after starts) :
    Course (.error (.emit error)) after starts
  | emitted {bundle : Bundle} {emitted : Emitted} {after : FileSystem} {starts : List Start}
    (hprepared : Prepared host options files bundle) (hprint : options.printUnit = false)
    (hcourse : Emission.Course host (emitOptions options) bundle files (.ok emitted) after starts) :
    Course (.ok (.emitted emitted)) after starts

/-- A session had its package, was to emit it and started a compiler: where and on what, how it ended, and the files it
left. -/
def Compiles (start : Start) (completion : Completion) (left : FileSystem) : Prop :=
  ∃ bundle, Prepared host options files bundle ∧ options.printUnit = false ∧
    Emission.Compiled host (emitOptions options) bundle files start completion left

/-- The error of a session whose compiler failed, with what could be read of its two streams. -/
def compilerError (completion : Completion) : RunError :=
  .emit (.compilerFailed completion.status (Text.ofUtf8Lossy completion.output) (Text.ofUtf8Lossy completion.errors))

variable {host options files}

theorem Prepared.unique {bundle other : Bundle} (h : Prepared host options files bundle)
    (h' : Prepared host options files other) : other = bundle := by
  obtain ⟨hload, hassemble⟩ := h
  obtain ⟨hload', hassemble'⟩ := h'
  obtain rfl := Except.ok.inj (hload.symm.trans hload')
  exact Except.ok.inj (hassemble'.symm.trans hassemble)

theorem Compiles.unique {start start' : Start} {completion completion' : Completion} {left left' : FileSystem}
    (h : Compiles host options files start completion left) (h' : Compiles host options files start' completion' left') :
    start' = start ∧ completion' = completion ∧ left' = left := by
  obtain ⟨bundle, hprepared, -, hcompiled⟩ := h
  obtain ⟨bundle', hprepared', -, hcompiled'⟩ := h'
  obtain rfl := hprepared.unique hprepared'
  exact hcompiled.unique hcompiled'

/-! ## The steps -/

section Steps

variable {world : World}

theorem lift_of_ok {α : Type} {step : Run EmitError α} {a : α} {after : World} (h : step world = .ok a after) :
    lift step world = .ok a after := by
  simp only [lift, EStateM.adaptExcept, h]

theorem lift_of_error {α : Type} {step : Run EmitError α} {error : EmitError} {after : World}
    (h : step world = .error error after) : lift step world = .error (.emit error) after := by
  simp only [lift, EStateM.adaptExcept, h]

theorem prepare_of_unloaded {error : LayoutError}
    (h : Layout.load world.files host.here options.filename = .error error) :
    prepare host options world = .error (.layout options.filename error) world :=
  Run.bind_of_error (by simp only [loadLayout, h])

theorem prepare_of_loaded {layout : Layout} (h : Layout.load world.files host.here options.filename = .ok layout) :
    prepare host options world = lift (Emission.assemble host (emitOptions options) options.name layout)
      { world with log := world.log ++ [.loaded options.name layout.sourceCount] } := by
  have hloaded : loadLayout host options world = .ok layout world := by simp only [loadLayout, h]
  exact (Run.bind_of_ok hloaded).trans (Run.bind_of_ok rfl)

theorem prepare_of_unassembled {layout : Layout} {error : BuildError}
    (hload : Layout.load world.files host.here options.filename = .ok layout)
    (hassemble : (((emitOptions options).sources host world.files).assemble options.name layout).2 = .error error) :
    ∃ log, prepare host options world = .error (.emit (.build error)) { world with log } := by
  rw [prepare_of_loaded hload]
  generalize hloaded : ({ world with log := world.log ++ [.loaded options.name layout.sourceCount] } : World) = loaded
  have hfiles : loaded.files = world.files := by rw [← hloaded]
  rw [← hfiles] at hassemble
  obtain ⟨log, hrun⟩ := Emission.assemble_of_error hassemble
  exact ⟨log, by rw [lift_of_error hrun, ← hloaded]⟩

theorem prepare_of_prepared {bundle : Bundle} (h : Prepared host options world.files bundle) :
    ∃ log, prepare host options world = .ok bundle { world with log } := by
  obtain @⟨layout, bundle, hload, hassemble⟩ := h
  rw [prepare_of_loaded hload]
  generalize hloaded : ({ world with log := world.log ++ [.loaded options.name layout.sourceCount] } : World) = loaded
  have hfiles : loaded.files = world.files := by rw [← hloaded]
  rw [← hfiles] at hassemble
  obtain ⟨log, hrun⟩ := Emission.assemble_of_ok hassemble
  exact ⟨log, by rw [lift_of_ok hrun, ← hloaded]⟩

theorem run_of_unprepared {error : RunError} {after : World} (h : prepare host options world = .error error after) :
    run host options world = .error error after := by
  rw [run_eq]
  exact Run.bind_of_error h

theorem run_of_printing {bundle : Bundle} {after : World} (h : prepare host options world = .ok bundle after)
    (hprint : options.printUnit = true) : run host options world = .ok (.printed bundle.text) after := by
  rw [run_eq, Run.bind_of_ok h, if_pos hprint]
  rfl

theorem run_of_emitting {bundle : Bundle} {after : World} (h : prepare host options world = .ok bundle after)
    (hprint : options.printUnit = false) :
    run host options world =
      (do return .emitted (← lift (Emission.emit host (emitOptions options) bundle)) : Run RunError Outcome) after := by
  have hemit : ¬ options.printUnit = true := by rw [hprint]; exact Bool.false_ne_true
  rw [run_eq, Run.bind_of_ok h, if_neg hemit]

theorem run_of_emission {bundle : Bundle} {result : Except EmitError Emitted} {after : FileSystem} {starts : List Start}
    (hprepared : Prepared host options world.files bundle) (hprint : options.printUnit = false)
    (hcourse : Emission.Course host (emitOptions options) bundle world.files result after starts) :
    Run.outcome (run host options world) = (result.map .emitted).mapError .emit ∧
      (Run.final (run host options world)).files = after ∧
      (Run.final (run host options world)).starts = world.starts ++ starts := by
  obtain ⟨log, hprepare⟩ := prepare_of_prepared hprepared
  -- the emission begins with more in the log, and its course does not depend on the log
  generalize hready : ({ world with log } : World) = ready at hprepare
  have hready_files : ready.files = world.files := by rw [← hready]
  have hready_starts : ready.starts = world.starts := by rw [← hready]
  rw [← hready_files] at hcourse
  obtain ⟨houtcome, hfiles, hstarts⟩ := Emission.emit_of_course hcourse
  rw [hready_starts] at hstarts
  rw [run_of_emitting hprepare hprint]
  cases result with
  | error error =>
    rw [Run.bind_of_error (lift_of_error (Run.eq_error_of_outcome houtcome))]
    exact ⟨rfl, hfiles, hstarts⟩
  | ok emitted =>
    rw [Run.bind_of_ok (lift_of_ok (Run.eq_ok_of_outcome houtcome))]
    exact ⟨rfl, hfiles, hstarts⟩

end Steps

/-! ## A session and its course -/

/-- **A course that is open to a session is the one it takes.** -/
theorem run_of_course {world : World} {outcome : Except RunError Outcome} {after : FileSystem} {starts : List Start}
    (h : Course host options world.files outcome after starts) :
    Run.outcome (run host options world) = outcome ∧ (Run.final (run host options world)).files = after ∧
      (Run.final (run host options world)).starts = world.starts ++ starts := by
  cases h with
  | unloaded hload =>
    rw [run_of_unprepared (prepare_of_unloaded hload)]
    exact ⟨rfl, rfl, (List.append_nil _).symm⟩
  | unassembled hload hassemble =>
    obtain ⟨log, hprepare⟩ := prepare_of_unassembled hload hassemble
    rw [run_of_unprepared hprepare]
    exact ⟨rfl, rfl, (List.append_nil _).symm⟩
  | printed hprepared hprint =>
    obtain ⟨log, hprepare⟩ := prepare_of_prepared hprepared
    rw [run_of_printing hprepare hprint]
    exact ⟨rfl, rfl, (List.append_nil _).symm⟩
  | failed hprepared hprint hcourse => exact run_of_emission hprepared hprint hcourse
  | emitted hprepared hprint hcourse => exact run_of_emission hprepared hprint hcourse

theorem exists_course (host : Host) (options : Options) (files : FileSystem) :
    ∃ outcome after starts, Course host options files outcome after starts := by
  cases hload : Layout.load files host.here options.filename with
  | error error => exact ⟨_, _, _, .unloaded hload⟩
  | ok layout =>
    cases hassemble : (((emitOptions options).sources host files).assemble options.name layout).2 with
    | error error => exact ⟨_, _, _, .unassembled hload hassemble⟩
    | ok bundle =>
      cases hprint : options.printUnit with
      | true => exact ⟨_, _, _, .printed ⟨hload, hassemble⟩ hprint⟩
      | false =>
        obtain ⟨result, after, starts, hcourse⟩ := Emission.exists_course host (emitOptions options) bundle files
        cases result with
        | error error => exact ⟨_, _, _, .failed ⟨hload, hassemble⟩ hprint hcourse⟩
        | ok emitted => exact ⟨_, _, _, .emitted ⟨hload, hassemble⟩ hprint hcourse⟩

/-- **A session takes a course.** -/
theorem course_of_run (host : Host) (options : Options) (world : World) :
    ∃ starts, Course host options world.files (Run.outcome (run host options world))
        (Run.final (run host options world)).files starts ∧
      (Run.final (run host options world)).starts = world.starts ++ starts := by
  obtain ⟨outcome, after, starts, h⟩ := exists_course host options world.files
  obtain ⟨houtcome, hfiles, hstarts⟩ := run_of_course h
  refine ⟨starts, ?_, hstarts⟩
  rw [houtcome, hfiles]
  exact h

theorem Prepared.starts_of_emission {bundle : Bundle} {result : Except EmitError Emitted} {after : FileSystem}
    {starts : List Start} (h : Prepared host options files bundle) (hprint : options.printUnit = false)
    (hcourse : Emission.Course host (emitOptions options) bundle files result after starts) :
    (∃ start completion left, starts = [start] ∧ Compiles host options files start completion left) ∨
      starts = [] ∧ ∀ start completion left, ¬ Compiles host options files start completion left := by
  rcases Emission.starts_of_course hcourse with ⟨start, completion, left, hstarts, hcompiled⟩ | ⟨hstarts, hnot, -⟩
  · exact .inl ⟨start, completion, left, hstarts, bundle, h, hprint, hcompiled⟩
  · refine .inr ⟨hstarts, ?_⟩
    rintro start completion left ⟨other, hother, -, hcompiled⟩
    obtain rfl := h.unique hother
    exact hnot hcompiled.startable

/-- **A session starts one compiler if it comes to that, and else none.** -/
theorem starts_of_course {outcome : Except RunError Outcome} {after : FileSystem} {starts : List Start}
    (h : Course host options files outcome after starts) :
    (∃ start completion left, starts = [start] ∧ Compiles host options files start completion left) ∨
      starts = [] ∧ ∀ start completion left, ¬ Compiles host options files start completion left := by
  cases h with
  | unloaded hload =>
    refine .inr ⟨rfl, ?_⟩
    rintro start completion left ⟨bundle, ⟨hloaded, -⟩, -, -⟩
    rw [hload] at hloaded
    cases hloaded
  | unassembled hload hassemble =>
    refine .inr ⟨rfl, ?_⟩
    rintro start completion left ⟨bundle, ⟨hloaded, hassembled⟩, -, -⟩
    obtain rfl := Except.ok.inj (hload.symm.trans hloaded)
    rw [hassemble] at hassembled
    cases hassembled
  | printed hprepared hprint =>
    refine .inr ⟨rfl, ?_⟩
    rintro start completion left ⟨bundle, -, hemit, -⟩
    rw [hprint] at hemit
    cases hemit
  | failed hprepared hprint hcourse => exact hprepared.starts_of_emission hprint hcourse
  | emitted hprepared hprint hcourse => exact hprepared.starts_of_emission hprint hcourse

/-- **A compiler that fails ends its session**, with what it had to say. -/
theorem course_of_compiles {start : Start} {completion : Completion} {left : FileSystem}
    (h : Compiles host options files start completion left) (hfailed : completion.succeeded = false) :
    Course host options files (.error (compilerError completion)) left [start] := by
  obtain ⟨bundle, hprepared, hprint, hcompiled⟩ := h
  exact .failed hprepared hprint (.compilerFailed hcompiled hfailed)

/-- Only a compiler that failed is said to have failed. -/
theorem compiles_of_course {status : Option Int} {output errors : Text} {after : FileSystem} {starts : List Start}
    (h : Course host options files (.error (.emit (.compilerFailed status output errors))) after starts) :
    ∃ start completion, starts = [start] ∧ Compiles host options files start completion after ∧
      completion.succeeded = false ∧ completion.status = status := by
  cases h with
  | failed hprepared hprint hcourse =>
    cases hcourse with
    | @compilerFailed start completion left hcompiled hfailed =>
      exact ⟨start, completion, rfl, ⟨_, hprepared, hprint, hcompiled⟩, hfailed, rfl⟩

end DtsBundle.Session
