import DtsBundle.Proofs.Assembly.Build
import DtsBundle.Proofs.Emission.Course
/-!
# From a layout to a declaration

To generate is to assemble and then to emit.  **A package that cannot be assembled changes nothing and starts nothing**
(`generate_of_error`), and one that can is emitted on the very files it was read from (`generate_of_ok`).
-/
namespace DtsBundle.Emission

variable {host : Host} {options : EmitOptions} {name : Text} {layout : Layout} {world : World}

/-- To assemble in a run is to settle what the sources give, with a longer log. -/
theorem assemble_eq (host : Host) (options : EmitOptions) (name : Text) (layout : Layout) (world : World) :
    ∃ log, assemble host options name layout world =
      Run.settle (((options.sources host world.files).assemble name layout).2.mapError .build) { world with log } :=
  ⟨world.log ++ ((options.sources host world.files).assemble name layout).1, rfl⟩

theorem assemble_of_error {error : BuildError}
    (h : ((options.sources host world.files).assemble name layout).2 = .error error) :
    ∃ log, assemble host options name layout world = .error (.build error) { world with log } := by
  obtain ⟨log, hassemble⟩ := assemble_eq host options name layout world
  rw [h] at hassemble
  exact ⟨log, hassemble⟩

theorem assemble_of_ok {bundle : Bundle} (h : ((options.sources host world.files).assemble name layout).2 = .ok bundle) :
    ∃ log, assemble host options name layout world = .ok bundle { world with log } := by
  obtain ⟨log, hassemble⟩ := assemble_eq host options name layout world
  rw [h] at hassemble
  exact ⟨log, hassemble⟩

/-- A package that cannot be assembled changes nothing. -/
theorem generate_of_error {error : BuildError}
    (h : ((options.sources host world.files).assemble name layout).2 = .error error) :
    ∃ log, generate host options name layout world = .error (.build error) { world with log } := by
  obtain ⟨log, hassemble⟩ := assemble_of_error h
  exact ⟨log, Run.bind_of_error hassemble⟩

/-- A package that can be assembled is emitted. -/
theorem generate_of_ok {bundle : Bundle} (h : ((options.sources host world.files).assemble name layout).2 = .ok bundle) :
    ∃ log, generate host options name layout world = emit host options bundle { world with log } := by
  obtain ⟨log, hassemble⟩ := assemble_of_ok h
  exact ⟨log, Run.bind_of_ok hassemble⟩

/-- **What a generation comes to**: nothing at all, or the course of an emission. -/
theorem course_of_generate (host : Host) (options : EmitOptions) (name : Text) (layout : Layout) (world : World) :
    (∃ error, ((options.sources host world.files).assemble name layout).2 = .error error ∧
        Run.outcome (generate host options name layout world) = .error (.build error) ∧
        (Run.final (generate host options name layout world)).files = world.files ∧
        (Run.final (generate host options name layout world)).starts = world.starts) ∨
      ∃ bundle starts, ((options.sources host world.files).assemble name layout).2 = .ok bundle ∧
        Course host options bundle world.files (Run.outcome (generate host options name layout world))
          (Run.final (generate host options name layout world)).files starts ∧
        (Run.final (generate host options name layout world)).starts = world.starts ++ starts := by
  cases h : ((options.sources host world.files).assemble name layout).2 with
  | error error =>
    obtain ⟨log, hrun⟩ := generate_of_error h
    rw [hrun]
    exact .inl ⟨error, rfl, rfl, rfl, rfl⟩
  | ok bundle =>
    obtain ⟨log, hrun⟩ := generate_of_ok h
    rw [hrun]
    obtain ⟨starts, hcourse, hstarts⟩ := course_of_emit host options bundle { world with log }
    exact .inr ⟨bundle, starts, rfl, hcourse, hstarts⟩

/-! ## A small host -/

/-- A compiler that leaves a declaration where it is started, as far as it can be written there, and ends well. -/
def leaving (declaration : Text) : Compiler :=
  fun directory _ files =>
    (⟨some 0, [], []⟩,
      match files.write directory rawDeclarationFile (Text.utf8 declaration) with
      | .ok written => written
      | .error _ => files)

/-- A host in `/w` that has such a compiler, as `/tsc`, and no other program. -/
def smallHost (declaration : Text) : Host where
  here := [['w']]
  search := fun _ => none
  installed := fun location => if location = [['t', 's', 'c']] then some (leaving declaration) else none

/-- A host in `/w` in which every program is one compiler. -/
def hostWith (compiler : Compiler) : Host :=
  { smallHost [] with installed := fun _ => some compiler }

/-- The files of that host, with some more in `/w`. -/
def smallFiles (entries : List (Text × FileEntry)) : FileSystem :=
  ⟨(entries.map fun entry => ([entry.1, ['w']], entry.2)) ++ [([['w']], .directory), ([['t', 's', 'c']], .file [])]⟩

/-- Work is done in `/w`, with `/tsc`. -/
def smallOptions (strict : Bool) : EmitOptions :=
  ⟨['.'], none, ⟨"/tsc".toList, []⟩, .canonical, strict⟩

/-- What a small source with a name is. -/
def smallSource (name content : String) : Text × FileEntry :=
  (name.toList, .file (Text.utf8 content.toList))

example :
    (Run.final (generate (smallHost "declare module p\nexport = p;".toList) (smallOptions true) ['p']
      (.source ['a'] ['a'] .empty) (World.of (smallFiles [smallSource "a.ts" "x"])))).files.get? ["p.d.ts".toList, ['w']] =
      some (.file (Text.utf8 "declare module \"p\"\n".toList)) := by
  decide +kernel

end DtsBundle.Emission
