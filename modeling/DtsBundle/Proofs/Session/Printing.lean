import DtsBundle.Proofs.Emission.Starts
import DtsBundle.Session
/-!
# Printing a unit in place of compiling it

A run that prints a package's unit and one that compiles it begin with the same steps, `prepare`, which only read
(`onlyLogs_prepare`).  The one ends there, without a look at what the compiler is; the other goes on to write the very
unit and to start the compiler on it.  So **what is printed is what would be compiled, and what cannot be printed fails
in the same way when it is to be compiled** (`run_previews`).
-/
namespace DtsBundle

/-! ## Steps that only read -/

namespace Run

variable {ε α β : Type}

/-- A step after which the log may have grown and nothing else has changed. -/
def OnlyLogs (step : Run ε α) : Prop :=
  ∀ world, (final (step world)).files = world.files ∧ (final (step world)).starts = world.starts

theorem OnlyLogs.bind {step : Run ε α} {next : α → Run ε β} (h : OnlyLogs step) (hnext : ∀ a, OnlyLogs (next a)) :
    OnlyLogs (step >>= next) := by
  intro world
  obtain ⟨hfiles, hstarts⟩ := h world
  cases hstep : step world with
  | error error after =>
    rw [hstep] at hfiles hstarts
    rw [bind_of_error hstep]
    exact ⟨hfiles, hstarts⟩
  | ok a after =>
    obtain ⟨hfiles', hstarts'⟩ := hnext a after
    rw [hstep] at hfiles hstarts
    rw [bind_of_ok hstep, hfiles', hstarts']
    exact ⟨hfiles, hstarts⟩

theorem onlyLogs_report (events : List Event) : OnlyLogs (report events : Run ε Unit) :=
  fun _ => ⟨rfl, rfl⟩

theorem final_bind_pure (step : Run ε α) (f : α → β) (world : World) :
    final ((step >>= fun a => pure (f a)) world) = final (step world) := by
  cases hstep : step world with
  | error error after => rw [bind_of_error hstep]; rfl
  | ok a after => rw [bind_of_ok hstep]; rfl

end Run

theorem Emission.onlyLogs_assemble (host : Host) (options : EmitOptions) (name : Text) (layout : Layout) :
    Run.OnlyLogs (Emission.assemble host options name layout) := by
  intro world
  obtain ⟨log, hrun⟩ := Emission.assemble_eq host options name layout world
  rw [hrun]
  cases ((options.sources host world.files).assemble name layout).2 <;> exact ⟨rfl, rfl⟩

namespace Session

theorem final_lift {α : Type} (step : Run EmitError α) (world : World) :
    Run.final (lift step world) = Run.final (step world) := by
  rw [lift, EStateM.adaptExcept]
  cases step world <;> rfl

theorem onlyLogs_lift {α : Type} {step : Run EmitError α} (h : Run.OnlyLogs step) : Run.OnlyLogs (lift step) := by
  intro world
  rw [final_lift]
  exact h world

theorem onlyLogs_loadLayout (host : Host) (options : Options) : Run.OnlyLogs (loadLayout host options) := by
  intro world
  rw [loadLayout]
  split <;> exact ⟨rfl, rfl⟩

/-! ## What both runs begin with -/

/-- Loads the layout and assembles its package: all that a run does before it prints or emits. -/
def prepare (host : Host) (options : Options) : Run RunError Bundle := do
  let layout ← loadLayout host options
  Run.report [.loaded options.name layout.sourceCount]
  lift (Emission.assemble host (emitOptions options) options.name layout)

theorem onlyLogs_prepare (host : Host) (options : Options) : Run.OnlyLogs (prepare host options) :=
  (onlyLogs_loadLayout host options).bind fun _ =>
    (Run.onlyLogs_report _).bind fun _ => onlyLogs_lift (Emission.onlyLogs_assemble _ _ _ _)

theorem run_eq (host : Host) (options : Options) :
    run host options = (do
      let bundle ← prepare host options
      if options.printUnit then return .printed bundle.text
      else return .emitted (← lift (Emission.emit host (emitOptions options) bundle))) := by
  simp only [run, prepare, bind_assoc]

theorem run_printing (host : Host) (options : Options) :
    run host { options with printUnit := true } = (do return .printed (← prepare host options).text) := by
  rw [run_eq]
  rfl

theorem run_emitting (host : Host) (options : Options) :
    run host { options with printUnit := false } = (do
      let bundle ← prepare host options
      return .emitted (← lift (Emission.emit host (emitOptions options) bundle))) := by
  rw [run_eq]
  rfl

/-! ## What is printed and what is compiled -/

/-- What a run that prints tells about one that compiles, from the same state: it changes no file and starts nothing,
whatever programs there are and whichever is asked for; what it prints is in the place of the unit whenever the other
starts its compiler; and if it fails, the other does all the same. -/
structure Previews (host : Host) (options : Options) (world : World)
    (printing emitting : EStateM.Result RunError World Outcome) : Prop where
  files : (Run.final printing).files = world.files
  starts : (Run.final printing).starts = world.starts
  unresolved : ∀ search installed tsc,
    run { host with search, installed } { options with printUnit := true, tsc } world = printing
  printed : ∀ outcome, Run.outcome printing = .ok outcome → ∃ unit starts, outcome = .printed unit ∧
    (Run.final emitting).starts = world.starts ++ starts ∧
    ∀ start ∈ starts, start.files.read host.here (Path.join options.dir unitFile) = .ok (Text.utf8 unit)
  failed : ∀ error, Run.outcome printing = .error error → emitting = printing

/-- The compiler of a run is started on the unit of the package that was prepared. -/
theorem starts_of_emitting {host : Host} {options : Options} {world after : World} {bundle : Bundle}
    (h : prepare host options world = .ok bundle after) :
    ∃ starts, (Run.final (run host { options with printUnit := false } world)).starts = after.starts ++ starts ∧
      ∀ start ∈ starts, start.files.read host.here (Path.join options.dir unitFile) = .ok (Text.utf8 bundle.text) := by
  obtain ⟨starts, hcourse, hstarts⟩ := Emission.course_of_emit host (emitOptions options) bundle after
  refine ⟨starts, ?_, ?_⟩
  · rw [run_emitting, Run.bind_of_ok h, Run.final_bind_pure, final_lift, hstarts]
  · intro start hm
    rcases Emission.starts_of_course hcourse with ⟨only, completion, left, rfl, hcompiled⟩ | ⟨rfl, -, -⟩
    · obtain rfl := List.mem_singleton.1 hm
      exact hcompiled.read_unit
    · exact absurd hm List.not_mem_nil

/-- **Printing a unit shows what would be compiled.** -/
theorem run_previews (host : Host) (options : Options) (world : World) :
    Previews host options world (run host { options with printUnit := true } world)
      (run host { options with printUnit := false } world) := by
  obtain ⟨hfiles, hstarts⟩ := onlyLogs_prepare host options world
  have hsame : ∀ search installed tsc,
      run { host with search, installed } { options with printUnit := true, tsc } =
        run host { options with printUnit := true } := fun search installed tsc =>
    (run_printing { host with search, installed } { options with tsc }).trans (run_printing host options).symm
  cases hprepare : prepare host options world with
  | error error after =>
    rw [hprepare] at hfiles hstarts
    have hprint : run host { options with printUnit := true } world = .error error after := by
      rw [run_printing]
      exact Run.bind_of_error hprepare
    have hemit : run host { options with printUnit := false } world = .error error after := by
      rw [run_emitting]
      exact Run.bind_of_error hprepare
    rw [hprint, hemit]
    exact { files := hfiles, starts := hstarts, failed := fun _ _ => rfl
            unresolved := fun search installed tsc => by rw [hsame, hprint]
            printed := fun _ h => by cases h }
  | ok bundle after =>
    rw [hprepare] at hfiles hstarts
    obtain ⟨starts, hadded, hread⟩ := starts_of_emitting hprepare
    have hprint : run host { options with printUnit := true } world = .ok (.printed bundle.text) after := by
      rw [run_printing]
      exact Run.bind_of_ok hprepare
    rw [hprint]
    refine { files := hfiles, starts := hstarts, failed := fun _ h => by cases h
             unresolved := fun search installed tsc => by rw [hsame, hprint]
             printed := fun outcome h => ?_ }
    obtain rfl := Except.ok.inj h
    exact ⟨bundle.text, starts, rfl, hadded.trans (congrArg (· ++ starts) hstarts), hread⟩

end Session
end DtsBundle
