import DtsBundle.Proofs.Emission.Publication
import DtsBundle.Proofs.Host
/-!
# What a run leaves behind

A run works with four files of the work directory: it writes the unit, the compiler writes the raw declaration and a
program, and the declaration is published.  Which of them are left when it ends depends on how it ends.  **Nothing else
is left** by a run whose compiler is tidy (`generate_leaves`): whatever becomes of it, the files are what they were but for
these four places.
-/
namespace DtsBundle

open FileSystem (SameBut)

namespace Emission

/-- The program that the compiler writes next to its declaration. -/
def compiledFile : Text :=
  "index.js".toList

/-- The files that a run for a package may find of another. -/
def leftovers (name : Text) : List Text :=
  [unitFile, rawDeclarationFile, compiledFile, declarationFile name]

/-- The place of a leftover other than some that were written already. -/
def IsLeftover (host : Host) (options : EmitOptions) (name : Text) (written : List Text) (location : Location) : Prop :=
  ∃ file ∈ leftovers name, file ∉ written ∧ location = place host options file

instance (host : Host) (options : EmitOptions) (name : Text) (written : List Text) (location : Location) :
    Decidable (IsLeftover host options name written location) :=
  inferInstanceAs (Decidable (∃ file ∈ leftovers name, file ∉ written ∧ location = place host options file))

variable {host : Host} {options : EmitOptions} {name : Text} {written : List Text}

theorem IsLeftover.of_cons {file : Text} {location : Location} (h : IsLeftover host options name (file :: written) location) :
    IsLeftover host options name written location := by
  obtain ⟨other, hother, hwritten, rfl⟩ := h
  exact ⟨other, hother, fun hm => hwritten (List.mem_cons_of_mem _ hm), rfl⟩

theorem IsLeftover.of_ne {file : Text} {location : Location}
    (h : IsLeftover host options name written location ∧ location ≠ place host options file) :
    IsLeftover host options name (file :: written) location := by
  obtain ⟨⟨other, hother, hwritten, rfl⟩, hne⟩ := h
  refine ⟨other, hother, fun hm => ?_, rfl⟩
  rcases List.mem_cons.1 hm with rfl | hm
  · exact hne rfl
  · exact hwritten hm

theorem IsLeftover.nil {location : Location} (h : IsLeftover host options name written location) :
    IsLeftover host options name [] location := by
  obtain ⟨other, hother, -, rfl⟩ := h
  exact ⟨other, hother, List.not_mem_nil, rfl⟩

theorem not_isLeftover {file : Text} (h : file ∈ written) :
    ¬ IsLeftover host options name written (place host options file) := by
  rintro ⟨other, -, hwritten, hplace⟩
  rw [place_inj.1 hplace] at h
  exact hwritten h

theorem not_isLeftover_of_length {location : Location}
    (h : location.length ≤ (Path.location host.here options.workDirectory).length) :
    ¬ IsLeftover host options name written location := by
  rintro ⟨file, -, -, rfl⟩
  rw [place, List.length_cons] at h
  omega

variable {bundle : Bundle} {files : FileSystem}

/-- A compiler that changes leftovers only. -/
def Tidy (host : Host) (options : EmitOptions) (name : Text) : Prop :=
  ∀ {program compiler}, options.command.resolve host = .ok program →
    host.installed (Path.location (Path.location host.here options.workDirectory) program) = some compiler →
    ∀ files, SameBut (IsLeftover host options name []) files
      (compiler (Path.location host.here options.workDirectory) (options.command.arguments unitFile) files).2

theorem isLeftover_unit (host : Host) (options : EmitOptions) (name : Text) :
    IsLeftover host options name [] (Path.location host.here (options.workPath unitFile)) :=
  ⟨unitFile, List.mem_cons_self, List.not_mem_nil, location_unitFile host options⟩

theorem Compiled.leaves (h : Tidy host options name) {start : Start} {completion : Completion} {left : FileSystem}
    (hcompiled : Compiled host options bundle files start completion left) :
    SameBut (IsLeftover host options name []) files left := by
  obtain @⟨given, left, program, inside, compiler, completion, hwrite, hresolve, hstart, hrun⟩ := hcompiled
  obtain ⟨rfl, hinstalled⟩ := Host.installed_of_start hstart
  have hleft := h hresolve hinstalled given
  rw [hrun] at hleft
  exact (FileSystem.sameBut_of_write (isLeftover_unit host options name) hwrite).trans hleft

/-- **Whatever becomes of an emission, it leaves nothing but leftovers.** -/
theorem Course.leaves (h : Tidy host options bundle.name) (hname : isIdentifier bundle.name = true)
    {outcome : Except EmitError Emitted} {after : FileSystem} {starts : List Start}
    (hcourse : Course host options bundle files outcome after starts) :
    SameBut (IsLeftover host options bundle.name []) files after := by
  have hunitPlace := isLeftover_unit host options bundle.name
  have hrawPlace : IsLeftover host options bundle.name [] (Path.location host.here (options.workPath rawDeclarationFile)) :=
    ⟨rawDeclarationFile, by simp [leftovers], List.not_mem_nil, location_rawDeclarationFile host options⟩
  have hplace : IsLeftover host options bundle.name []
      (Path.location host.here (options.workPath (declarationFile bundle.name))) :=
    ⟨declarationFile bundle.name, by simp [leftovers], List.not_mem_nil, location_declarationFile hname host options⟩
  cases hcourse with
  | unitRefused => exact .refl _ _
  | noProgram hwrite => exact FileSystem.sameBut_of_write hunitPlace hwrite
  | notStarted hwrite => exact FileSystem.sameBut_of_write hunitPlace hwrite
  | compilerFailed hcompiled => exact hcompiled.leaves h
  | undeclared hcompiled => exact hcompiled.leaves h
  | unreadable hcompiled => exact hcompiled.leaves h
  | noHeader hcompiled => exact hcompiled.leaves h
  | noExport hcompiled => exact hcompiled.leaves h
  | unitLost haccepted =>
    obtain ⟨completion, hcompiled, -⟩ := haccepted.compiled
    exact hcompiled.leaves h
  | unpublished haccepted hunit hraw =>
    obtain ⟨completion, hcompiled, -⟩ := haccepted.compiled
    have hbare := (hcompiled.leaves h).trans (FileSystem.sameBut_of_remove hunitPlace hunit)
    exact hbare.trans (FileSystem.sameBut_of_remove hrawPlace hraw)
  | published haccepted hunit hraw hwrite =>
    obtain ⟨completion, hcompiled, -⟩ := haccepted.compiled
    have hbare := (hcompiled.leaves h).trans (FileSystem.sameBut_of_remove hunitPlace hunit)
    have hclean := hbare.trans (FileSystem.sameBut_of_remove hrawPlace hraw)
    exact hclean.trans (FileSystem.sameBut_of_write hplace hwrite)

theorem generate_leaves (layout : Layout) (h : Tidy host options name) (world : World) :
    SameBut (IsLeftover host options name []) world.files (Run.final (generate host options name layout world)).files := by
  rcases course_of_generate host options name layout world with
    ⟨error, -, -, hfiles, -⟩ | ⟨bundle, starts, hok, hcourse, -⟩
  · rw [hfiles]
    exact .refl _ _
  · obtain ⟨rfl, hname⟩ := Sources.name_of_assemble hok
    exact hcourse.leaves h hname

end Emission
end DtsBundle
