import DtsBundle.Proofs.Emission.Generation
/-!
# The files in between

The unit and the raw declaration are to be removed on success only.  An emission removes them before it writes the
published declaration, and when that write is refused it fails with both of them gone.  **This is the one failure that
does not keep them**: every other leaves them as the compiler left them (`emit_error_keeps_iff`).

`Reached` says what there is to keep, and `Unpublishable` when the one failure comes: the compiler did its part, its
declaration is accepted, the unit is still there, and the place of the published declaration cannot be written.
-/
namespace DtsBundle.Emission

variable (host : Host) (options : EmitOptions) (bundle : Bundle) (files : FileSystem)

/-- The files an emission has when nothing is left to it but the two files in between: what the compiler left, or, if
none was started, the files with the unit, or without it if it could not be written. -/
inductive Reached : FileSystem → Prop
  | unwritten {fault : FileFault}
    (hwrite : files.write host.here (options.workPath unitFile) (Text.utf8 bundle.text) = .error fault) : Reached files
  | unstarted {written : FileSystem}
    (hwrite : files.write host.here (options.workPath unitFile) (Text.utf8 bundle.text) = .ok written)
    (hstart : ∀ start completion left, ¬ Compiled host options bundle files start completion left) : Reached written
  | compiled {start : Start} {completion : Completion} {left : FileSystem}
    (hcompiled : Compiled host options bundle files start completion left) : Reached left

/-- Both files in between are in some files what they are when an emission turns to them. -/
def KeepsIntermediates (after : FileSystem) : Prop :=
  ∃ reached, Reached host options bundle files reached ∧
    ∀ file ∈ [unitFile, rawDeclarationFile],
      after.get? (Path.location host.here (options.workPath file)) =
        reached.get? (Path.location host.here (options.workPath file))

/-- The compiler did its part and left the unit, but the declaration cannot be written under the package's name. -/
def Unpublishable : Prop :=
  ∃ start declaration left, Accepted host options bundle files start declaration left ∧
    (∃ content, left.read host.here (options.workPath unitFile) = .ok content) ∧
    ∃ fault, left.write host.here (options.workPath (declarationFile bundle.name))
      (Text.utf8 (Declaration.edit bundle.name declaration).text) = .error fault

variable {host options bundle files}

theorem Reached.eq_left {start : Start} {completion : Completion} {left reached : FileSystem}
    (h : Reached host options bundle files reached) (hcompiled : Compiled host options bundle files start completion left) :
    reached = left := by
  cases h with
  | unwritten hrefused =>
    obtain ⟨hwrite, -, -, -⟩ := hcompiled
    rw [hwrite] at hrefused
    cases hrefused
  | unstarted _ hstart => exact absurd hcompiled (hstart _ _ _)
  | compiled hreached => exact (hcompiled.unique hreached).2.2

theorem Reached.keeps {after : FileSystem} (h : Reached host options bundle files after) :
    KeepsIntermediates host options bundle files after :=
  ⟨after, h, fun _ _ => rfl⟩

theorem keepsDirectories_removals {left bare clean : FileSystem} {here : Location} {first second : Text}
    (hfirst : left.remove here first = .ok bare) (hsecond : bare.remove here second = .ok clean) :
    FileSystem.KeepsDirectories left clean ∧ FileSystem.KeepsDirectories clean left :=
  ⟨(FileSystem.keepsDirectories_of_remove hfirst).trans (FileSystem.keepsDirectories_of_remove hsecond),
    (FileSystem.keepsDirectories_before_remove hsecond).trans (FileSystem.keepsDirectories_before_remove hfirst)⟩

theorem write_error_of_sameDirectories {fs other : FileSystem} {here : Location} {path : Text} {content : List UInt8}
    {fault : FileFault} (hto : FileSystem.KeepsDirectories fs other) (hfrom : FileSystem.KeepsDirectories other fs)
    (h : other.write here path content = .error fault) : ∃ fault', fs.write here path content = .error fault' := by
  cases hwrite : fs.write here path content with
  | error fault' => exact ⟨fault', rfl⟩
  | ok written =>
    obtain ⟨done, hdone⟩ := FileSystem.write_of_sameDirectories hto hfrom hwrite
    rw [h] at hdone
    cases hdone

/-- An emission fails with what it reached, or else it was about to publish and could not. -/
theorem reached_or_unpublishable {error : EmitError} {after : FileSystem} {starts : List Start}
    (h : Course host options bundle files (.error error) after starts) :
    Reached host options bundle files after ∨ Unpublishable host options bundle files := by
  cases h with
  | unitRefused hwrite => exact .inl (.unwritten hwrite)
  | noProgram hwrite hresolve =>
    refine .inl (.unstarted hwrite fun start completion left hcompiled => ?_)
    obtain ⟨-, hresolved, -, -⟩ := hcompiled
    rw [hresolve] at hresolved
    cases hresolved
  | notStarted hwrite hresolve hstart =>
    refine .inl (.unstarted hwrite fun start completion left hcompiled => ?_)
    obtain ⟨hwritten, hresolved, hstarted, -⟩ := hcompiled
    obtain rfl := Except.ok.inj (hwrite.symm.trans hwritten)
    obtain rfl := Except.ok.inj (hresolve.symm.trans hresolved)
    rw [hstart] at hstarted
    cases hstarted
  | compilerFailed hcompiled => exact .inl (.compiled hcompiled)
  | undeclared hcompiled => exact .inl (.compiled hcompiled)
  | unreadable hcompiled => exact .inl (.compiled hcompiled)
  | noHeader hcompiled => exact .inl (.compiled hcompiled)
  | noExport hcompiled => exact .inl (.compiled hcompiled)
  | unitLost haccepted =>
    obtain ⟨completion, hcompiled, -⟩ := haccepted.compiled
    exact .inl (.compiled hcompiled)
  | unpublished haccepted hunit hraw hwrite =>
    obtain ⟨hlocate, ⟨content, hget⟩, -⟩ := FileSystem.remove_eq_ok_iff.1 hunit
    refine .inr ⟨_, _, _, haccepted, ⟨content, FileSystem.read_eq_ok_iff.2 ⟨hlocate, hget⟩⟩, ?_⟩
    obtain ⟨hto, hfrom⟩ := keepsDirectories_removals hunit hraw
    exact write_error_of_sameDirectories hto hfrom hwrite

/-- An emission that cannot publish fails when both files in between are gone. -/
theorem course_of_unpublishable (h : Unpublishable host options bundle files) :
    ∃ start declaration left clean fault, Accepted host options bundle files start declaration left ∧
      (∃ content, left.get? (Path.location host.here (options.workPath unitFile)) = some (.file content)) ∧
      clean.get? (Path.location host.here (options.workPath unitFile)) = none ∧
      Course host options bundle files (.error (.file (options.workPath (declarationFile bundle.name)) fault)) clean
        [start] := by
  obtain ⟨start, declaration, left, haccepted, ⟨content, hread⟩, fault, hrefused⟩ := h
  obtain ⟨hlocate, hget⟩ := FileSystem.read_eq_ok_iff.1 hread
  have hunit := FileSystem.remove_eq_ok_iff.2 ⟨hlocate, ⟨content, hget⟩, rfl⟩
  obtain ⟨clean, hraw⟩ := remove_raw_of_remove_unit haccepted.declared hunit
  obtain ⟨hto, hfrom⟩ := keepsDirectories_removals hunit hraw
  obtain ⟨fault', hwrite⟩ := write_error_of_sameDirectories hfrom hto hrefused
  refine ⟨start, declaration, left, clean, fault', haccepted, ⟨content, hget⟩, ?_, .unpublished haccepted hunit hraw hwrite⟩
  obtain ⟨-, -, rfl⟩ := FileSystem.remove_eq_ok_iff.1 hraw
  rw [FileSystem.get?_erase_of_ne (location_unit_ne_raw host.here options).symm,
    FileSystem.get?_erase_self (FileSystem.ne_root_of_file hget)]

/-- **A failure keeps the files in between unless it is the refusal of the published declaration.** -/
theorem emit_error_keeps_iff (host : Host) (options : EmitOptions) (bundle : Bundle) (world : World) :
    (∀ error after, emit host options bundle world = .error error after →
      KeepsIntermediates host options bundle world.files after.files) ↔
      ¬ Unpublishable host options bundle world.files := by
  constructor
  · intro hkeeps hunpublishable
    obtain ⟨start, declaration, left, clean, fault, haccepted, ⟨content, hleft⟩, hclean, hcourse⟩ :=
      course_of_unpublishable hunpublishable
    obtain ⟨houtcome, hfiles, -⟩ := emit_of_course hcourse
    obtain ⟨reached, hreached, hsame⟩ := hkeeps _ _ (Run.eq_error_of_outcome houtcome)
    obtain ⟨completion, hcompiled, -⟩ := haccepted.compiled
    obtain rfl := hreached.eq_left hcompiled
    have hunit := hsame unitFile List.mem_cons_self
    rw [hfiles, hclean, hleft] at hunit
    cases hunit
  · intro hpublishable error after h
    obtain ⟨starts, hcourse⟩ := course_of_emit_error h
    rcases reached_or_unpublishable hcourse with hreached | hunpublishable
    · exact hreached.keeps
    · exact absurd hunpublishable hpublishable

/-- **An emission can fail with both files in between gone**: the declaration's place is taken by a directory. -/
theorem emit_error_removes :
    ∃ after, emit (smallHost ['d']) (smallOptions false) ⟨['p'], [], [], .nil⟩
          (World.of (smallFiles [("p.d.ts".toList, .directory)])) =
        .error (.file "./p.d.ts".toList .isDirectory) after ∧
      after.files.get? [unitFile, ['w']] = none ∧ after.files.get? [rawDeclarationFile, ['w']] = none ∧
      ∃ start completion left,
        Compiled (smallHost ['d']) (smallOptions false) ⟨['p'], [], [], .nil⟩ (smallFiles [("p.d.ts".toList, .directory)])
          start completion left ∧
        (left.get? [unitFile, ['w']]).isSome = true ∧ (left.get? [rawDeclarationFile, ['w']]).isSome = true := by
  refine ⟨_, rfl, rfl, rfl, _, _, _, .intro rfl rfl rfl rfl, ?_, ?_⟩ <;> decide +kernel

end DtsBundle.Emission
