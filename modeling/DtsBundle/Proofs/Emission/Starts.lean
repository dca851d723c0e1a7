import DtsBundle.Proofs.Assembly.Defects
import DtsBundle.Proofs.Emission.Generation
/-!
# When the compiler is started

Nothing is started for a package that has a defect, and nothing is written for it.  Any other is written out as its unit,
and **a compiler is started on it once or not at all** (`starts_of_course`): once if the unit can be written, the program
is found and the process can be started (`Startable`), and until then no other file is touched (`SameButUnit`).
-/
namespace DtsBundle.Emission

variable (host : Host) (options : EmitOptions) (bundle : Bundle) (files : FileSystem)

/-- A compiler can be started on the unit of a package. -/
def Startable : Prop :=
  ∃ written program inside compiler,
    files.write host.here (options.workPath unitFile) (Text.utf8 bundle.text) = .ok written ∧
    options.command.resolve host = .ok program ∧
    host.start written options.workDirectory program (options.command.arguments unitFile) = .ok (inside, compiler)

/-- Files that differ from others in the place of the unit at most. -/
def SameButUnit (other : FileSystem) : Prop :=
  ∀ location, location ≠ Path.location host.here (options.workPath unitFile) → other.get? location = files.get? location

/-- How the compiler is started for a package: once if it can be, else not at all, and by then, or by the end if it cannot,
only the unit was written. -/
structure StartsOnce (after : FileSystem) (starts : List Start) : Prop where
  once : starts.length = 1 ↔ Startable host options bundle files
  never : starts = [] ↔ ¬ Startable host options bundle files
  before : ∀ start ∈ starts, SameButUnit host options files start.files
  unstarted : starts = [] → SameButUnit host options files after

variable {host options bundle files}

theorem sameButUnit_of_write {written : FileSystem} {content : List UInt8}
    (h : files.write host.here (options.workPath unitFile) content = .ok written) :
    SameButUnit host options files written :=
  fun _ hne => FileSystem.get?_of_write h hne

theorem Compiled.startable {start : Start} {completion : Completion} {left : FileSystem}
    (h : Compiled host options bundle files start completion left) : Startable host options bundle files := by
  obtain ⟨hwrite, hresolve, hstart, -⟩ := h
  exact ⟨_, _, _, _, hwrite, hresolve, hstart⟩

/-- A compiler is started on the files that were there, with the unit in its place. -/
theorem Compiled.sameButUnit {start : Start} {completion : Completion} {left : FileSystem}
    (h : Compiled host options bundle files start completion left) : SameButUnit host options files start.files := by
  obtain ⟨hwrite, -, -, -⟩ := h
  exact sameButUnit_of_write hwrite

theorem Compiled.read_unit {start : Start} {completion : Completion} {left : FileSystem}
    (h : Compiled host options bundle files start completion left) :
    start.files.read host.here (options.workPath unitFile) = .ok (Text.utf8 bundle.text) := by
  obtain ⟨hwrite, -, -, -⟩ := h
  exact FileSystem.read_written hwrite

/-- **On every course a compiler is started once or not at all**: once just if it can be, and if it cannot, the unit is all
that was written. -/
theorem starts_of_course {outcome : Except EmitError Emitted} {after : FileSystem} {starts : List Start}
    (h : Course host options bundle files outcome after starts) :
    (∃ start completion left, starts = [start] ∧ Compiled host options bundle files start completion left) ∨
      starts = [] ∧ ¬ Startable host options bundle files ∧ SameButUnit host options files after := by
  cases h with
  | unitRefused hwrite =>
    refine .inr ⟨rfl, ?_, fun _ _ => rfl⟩
    rintro ⟨written, program, inside, compiler, hwritten, -, -⟩
    rw [hwrite] at hwritten
    cases hwritten
  | noProgram hwrite hresolve =>
    refine .inr ⟨rfl, ?_, sameButUnit_of_write hwrite⟩
    rintro ⟨written, program, inside, compiler, -, hresolved, -⟩
    rw [hresolve] at hresolved
    cases hresolved
  | notStarted hwrite hresolve hstart =>
    refine .inr ⟨rfl, ?_, sameButUnit_of_write hwrite⟩
    rintro ⟨written, program, inside, compiler, hwritten, hresolved, hstarted⟩
    obtain rfl := Except.ok.inj (hwrite.symm.trans hwritten)
    obtain rfl := Except.ok.inj (hresolve.symm.trans hresolved)
    rw [hstart] at hstarted
    cases hstarted
  | compilerFailed hcompiled => exact .inl ⟨_, _, _, rfl, hcompiled⟩
  | undeclared hcompiled => exact .inl ⟨_, _, _, rfl, hcompiled⟩
  | unreadable hcompiled => exact .inl ⟨_, _, _, rfl, hcompiled⟩
  | noHeader hcompiled => exact .inl ⟨_, _, _, rfl, hcompiled⟩
  | noExport hcompiled => exact .inl ⟨_, _, _, rfl, hcompiled⟩
  | unitLost haccepted =>
    obtain ⟨completion, hcompiled, -⟩ := haccepted.compiled
    exact .inl ⟨_, _, _, rfl, hcompiled⟩
  | unpublished haccepted =>
    obtain ⟨completion, hcompiled, -⟩ := haccepted.compiled
    exact .inl ⟨_, _, _, rfl, hcompiled⟩
  | published haccepted =>
    obtain ⟨completion, hcompiled, -⟩ := haccepted.compiled
    exact .inl ⟨_, _, _, rfl, hcompiled⟩

theorem startsOnce_of_course {outcome : Except EmitError Emitted} {after : FileSystem} {starts : List Start}
    (h : Course host options bundle files outcome after starts) :
    StartsOnce host options bundle files after starts := by
  rcases starts_of_course h with ⟨start, completion, left, rfl, hcompiled⟩ | ⟨rfl, hnot, hafter⟩
  · have hstartable := hcompiled.startable
    have hne : [start] ≠ [] := List.cons_ne_nil _ _
    refine ⟨⟨fun _ => hstartable, fun _ => rfl⟩, ⟨fun h => absurd h hne, fun h => absurd hstartable h⟩, ?_,
      fun h => absurd h hne⟩
    intro other hm
    obtain rfl := List.mem_singleton.1 hm
    exact hcompiled.sameButUnit
  · have hzero : ([] : List Start).length ≠ 1 := by decide
    exact ⟨⟨fun h => absurd h hzero, fun h => absurd h hnot⟩, ⟨fun _ => hnot, fun _ => rfl⟩,
      fun _ hm => absurd hm List.not_mem_nil, fun _ => hafter⟩

/-- **A package with a defect changes nothing and starts nothing, and any other starts a compiler once if it can.** -/
theorem generate_starts_once (host : Host) (options : EmitOptions) (name : Text) (layout : Layout) (world : World) :
    ((options.sources host world.files).Flawed name layout →
      ∃ error log, (options.sources host world.files).Defect name layout error ∧
        generate host options name layout world = .error (.build error) { world with log }) ∧
    (¬ (options.sources host world.files).Flawed name layout →
      ∃ bundle starts, ((options.sources host world.files).assemble name layout).2 = .ok bundle ∧
        (Run.final (generate host options name layout world)).starts = world.starts ++ starts ∧
        StartsOnce host options bundle world.files (Run.final (generate host options name layout world)).files starts) := by
  constructor
  · intro hflawed
    obtain ⟨error, hdefect⟩ := Sources.flawed_iff.1 hflawed
    obtain ⟨log, hrun⟩ := generate_of_error (Sources.assemble_eq_error_iff.2 hdefect)
    exact ⟨error, log, hdefect, hrun⟩
  · intro hsound
    rcases course_of_generate host options name layout world with
      ⟨error, hfailed, -⟩ | ⟨bundle, starts, hok, hcourse, hstarts⟩
    · exact absurd (Sources.flawed_iff.2 ⟨error, Sources.assemble_eq_error_iff.1 hfailed⟩) hsound
    · exact ⟨bundle, starts, hok, hstarts, startsOnce_of_course hcourse⟩

end DtsBundle.Emission
