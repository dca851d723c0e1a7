import DtsBundle.Proofs.Emission.Generation
import DtsBundle.Proofs.Host
/-!
# What becomes of the sources

A generation reads its sources and has three files of its own in the work directory: the unit, the raw declaration and
the published one.  Nothing keeps a source apart from these, and a source that is one of them is written over or
removed like them (`generate_removes_source`).  **Every other source is there afterwards as it was before**, however the
generation ends, if the compiler leaves it alone (`generate_keeps_sources`).  Which of the three can cost a source depends
on how far the run came: `touched` names them for each outcome.
-/
namespace DtsBundle

namespace Emission

/-- A compiler that leaves the file at a path as it finds it. -/
def Spares (host : Host) (options : EmitOptions) (path : Text) : Prop :=
  ∀ {program compiler}, options.command.resolve host = .ok program →
    host.installed (Path.location (Path.location host.here options.workDirectory) program) = some compiler →
    ∀ {files : FileSystem} {content}, files.read host.here path = .ok content →
      (compiler (Path.location host.here options.workDirectory) (options.command.arguments unitFile) files).2.read
        host.here path = .ok content

variable {host : Host} {options : EmitOptions} {bundle : Bundle} {files : FileSystem}

/-- The files of its own that a run with an outcome may have written or removed: none if the package could not be
assembled, else the unit; the raw declaration too if only the publication failed, which it cannot do in the place of the
raw declaration; all three if it ended well. -/
def touched (options : EmitOptions) (name : Text) : Except EmitError Emitted → List Text
  | .error (.build _) => []
  | .error (.file path _) =>
    if path = options.workPath (declarationFile name) ∧ path ≠ options.workPath rawDeclarationFile then
      [options.workPath unitFile, options.workPath rawDeclarationFile]
    else [options.workPath unitFile]
  | .error _ => [options.workPath unitFile]
  | .ok _ => [options.workPath unitFile, options.workPath rawDeclarationFile, options.workPath (declarationFile name)]

theorem unit_mem_touched_file (options : EmitOptions) (name path : Text) (fault : FileFault) :
    options.workPath unitFile ∈ touched options name (.error (.file path fault)) := by
  rw [touched]
  split <;> exact List.mem_cons_self

theorem touched_unpublished {options : EmitOptions} {name : Text}
    (h : options.workPath (declarationFile name) ≠ options.workPath rawDeclarationFile) (fault : FileFault) :
    touched options name (.error (.file (options.workPath (declarationFile name)) fault)) =
      [options.workPath unitFile, options.workPath rawDeclarationFile] :=
  if_pos ⟨rfl, h⟩

/-- A declaration that cannot be written was to stand elsewhere than the raw one. -/
theorem declaration_ne_raw_of_write {bare clean : FileSystem} {here : Location} {raw path : Text} {content : List UInt8}
    {fault : FileFault} (hraw : bare.remove here raw = .ok clean) (hwrite : clean.write here path content = .error fault) :
    path ≠ raw := by
  rintro rfl
  obtain ⟨written, hwritten⟩ := FileSystem.write_of_removed hraw content
  rw [hwrite] at hwritten
  cases hwritten

/-- A file that the compiler spares is as it was when the compiler has ended, unless it is the unit. -/
theorem read_of_compiled {start : Start} {completion : Completion} {left : FileSystem} {path : Text} {content : List UInt8}
    (h : Compiled host options bundle files start completion left) (hspares : Spares host options path)
    (hunit : Path.location host.here path ≠ Path.location host.here (options.workPath unitFile))
    (hread : files.read host.here path = .ok content) : left.read host.here path = .ok content := by
  obtain @⟨written, left, program, inside, compiler, completion, hwrite, hresolve, hstart, hrun⟩ := h
  obtain ⟨rfl, hinstalled⟩ := Host.installed_of_start hstart
  have hkept := hspares hresolve hinstalled (FileSystem.read_of_write hwrite hunit hread)
  rwa [hrun] at hkept

/-- **What an outcome does not touch is kept**, on every course of an emission. -/
theorem read_of_course {outcome : Except EmitError Emitted} {after : FileSystem} {starts : List Start} {path : Text}
    {content : List UInt8} (h : Course host options bundle files outcome after starts) (hspares : Spares host options path)
    (htouched : ∀ own ∈ touched options bundle.name outcome, Path.location host.here path ≠ Path.location host.here own)
    (hread : files.read host.here path = .ok content) : after.read host.here path = .ok content := by
  cases h with
  | unitRefused => exact hread
  | noProgram hwrite => exact FileSystem.read_of_write hwrite (htouched _ List.mem_cons_self) hread
  | notStarted hwrite => exact FileSystem.read_of_write hwrite (htouched _ List.mem_cons_self) hread
  | compilerFailed hcompiled => exact read_of_compiled hcompiled hspares (htouched _ List.mem_cons_self) hread
  | undeclared hcompiled => exact read_of_compiled hcompiled hspares (htouched _ List.mem_cons_self) hread
  | unreadable hcompiled =>
    exact read_of_compiled hcompiled hspares (htouched _ (unit_mem_touched_file options _ _ _)) hread
  | noHeader hcompiled => exact read_of_compiled hcompiled hspares (htouched _ List.mem_cons_self) hread
  | noExport hcompiled => exact read_of_compiled hcompiled hspares (htouched _ List.mem_cons_self) hread
  | unitLost haccepted =>
    obtain ⟨completion, hcompiled, -⟩ := haccepted.compiled
    exact read_of_compiled hcompiled hspares (htouched _ (unit_mem_touched_file options _ _ _)) hread
  | unpublished haccepted hunit hraw hwrite =>
    obtain ⟨completion, hcompiled, -⟩ := haccepted.compiled
    rw [touched_unpublished (declaration_ne_raw_of_write hraw hwrite)] at htouched
    have hu := htouched _ List.mem_cons_self
    have hr := htouched _ (List.mem_cons_of_mem _ List.mem_cons_self)
    have hleft := read_of_compiled hcompiled hspares hu hread
    exact FileSystem.read_of_remove hraw hr (FileSystem.read_of_remove hunit hu hleft)
  | published haccepted hunit hraw hwrite =>
    obtain ⟨completion, hcompiled, -⟩ := haccepted.compiled
    have hu := htouched _ List.mem_cons_self
    have hr := htouched _ (List.mem_cons_of_mem _ List.mem_cons_self)
    have hd := htouched _ (List.mem_cons_of_mem _ (List.mem_cons_of_mem _ List.mem_cons_self))
    have hleft := read_of_compiled hcompiled hspares hu hread
    have hclean := FileSystem.read_of_remove hraw hr (FileSystem.read_of_remove hunit hu hleft)
    exact FileSystem.read_of_write hwrite hd hclean

/-- **Every source is kept that is not one of the files the run has touched**, with whatever outcome it ends. -/
theorem generate_keeps_sources (host : Host) (options : EmitOptions) (name : Text) (layout : Layout) (world : World)
    (hspares : ∀ path ∈ layout.sourcePaths options.base, Spares host options path) :
    ∀ path ∈ layout.sourcePaths options.base, ∀ content, world.files.read host.here path = .ok content →
      (∀ own ∈ touched options name (Run.outcome (generate host options name layout world)),
        Path.location host.here path ≠ Path.location host.here own) →
      (Run.final (generate host options name layout world)).files.read host.here path = .ok content := by
  intro path hpath content hread htouched
  rcases course_of_generate host options name layout world with
    ⟨error, -, -, hfiles, -⟩ | ⟨bundle, starts, hok, hcourse, -⟩
  · rw [hfiles]
    exact hread
  · refine read_of_course hcourse (hspares path hpath) ?_ hread
    rw [(Sources.name_of_assemble hok).1]
    exact htouched

/-! ## A small case -/

theorem smallHost_spares {options : EmitOptions} {declaration path : Text}
    (h : Path.location [['w']] path ≠ rawDeclarationFile :: Path.location [['w']] options.workDirectory) :
    Spares (smallHost declaration) options path := by
  intro program compiler _ hinstalled files content hread
  simp only [smallHost] at hinstalled
  split at hinstalled
  · obtain rfl := Option.some.inj hinstalled
    simp only [leaving]
    split
    · rename_i written hwrite
      exact FileSystem.read_of_write hwrite h hread
    · exact hread
  · cases hinstalled

/-- A source in the work directory is kept when the package is published next to it. -/
theorem generate_keeps_sources_small :
    (∀ path ∈ (Layout.source ['a'] ['a'] .empty).sourcePaths ['.'], Spares (smallHost ['d']) (smallOptions false) path) ∧
      (Run.final (generate (smallHost ['d']) (smallOptions false) ['p'] (.source ['a'] ['a'] .empty)
        (World.of (smallFiles [smallSource "a.ts" "x"])))).files.read [['w']] "./a.ts".toList =
        .ok (Text.utf8 ['x']) := by
  have hspares : ∀ path ∈ (Layout.source ['a'] ['a'] .empty).sourcePaths ['.'],
      Spares (smallHost ['d']) (smallOptions false) path := by
    intro path hpath
    obtain rfl := List.mem_singleton.1 hpath
    exact smallHost_spares (by decide)
  refine ⟨hspares, ?_⟩
  exact generate_keeps_sources (smallHost ['d']) (smallOptions false) ['p'] (.source ['a'] ['a'] .empty)
    (World.of (smallFiles [smallSource "a.ts" "x"])) hspares "./a.ts".toList List.mem_cons_self (Text.utf8 ['x'])
    (by rfl) (by decide +kernel)

/-- **A source that is named like the unit is lost** when the declaration is published. -/
theorem generate_removes_source :
    (∀ path ∈ (Layout.source ['a'] "index".toList .empty).sourcePaths ['.'],
        Spares (smallHost ['d']) (smallOptions false) path) ∧
      (smallFiles [smallSource "index.ts" "x"]).read [['w']] "./index.ts".toList = .ok (Text.utf8 ['x']) ∧
      ∃ emitted after, generate (smallHost ['d']) (smallOptions false) ['p'] (.source ['a'] "index".toList .empty)
          (World.of (smallFiles [smallSource "index.ts" "x"])) = .ok emitted after ∧
        after.files.read [['w']] "./index.ts".toList = .error .notFound := by
  refine ⟨fun path hpath => ?_, rfl, _, _, rfl, rfl⟩
  obtain rfl := List.mem_singleton.1 hpath
  exact smallHost_spares (by decide)

end Emission
end DtsBundle
