import DtsBundle.Proofs.Emission.Publication
import DtsBundle.Proofs.Emission.Starts
/-!
# A compiler that writes no declaration

A compiler can end well and still write no declaration.  This is to be an error, and nothing is to be published.  But
nothing clears the place of the declaration before the compiler is started, and the declaration is read by its path
alone: one that stood there before the run is taken for what the compiler wrote.  So **the error comes just when nothing is
found at that place in the end**, and what is published otherwise was written by no compiler of this run
(`emit_undeclared_iff`).

Such a file is what an earlier run leaves that failed, or that published a package called `index`.
-/
namespace DtsBundle

/-- A file that can be looked up is not found just when it is not there. -/
theorem FileSystem.readText_eq_notFound_iff {fs : FileSystem} {here location : Location} {path : Text}
    (h : fs.locate here path = .ok location) :
    fs.readText here path = .error .notFound ↔ fs.get? location = none := by
  rw [readText, read, h]
  dsimp only
  cases fs.get? location with
  | none => simp
  | some entry =>
    cases entry with
    | directory => simp
    | file content =>
      dsimp only
      cases Text.ofUtf8? content <;> simp

namespace Emission

/-- A compiler was started on a package and ended well, and the place of the declaration is as it was or empty. -/
structure Silent (host : Host) (options : EmitOptions) (bundle : Bundle) (files : FileSystem) (start : Start)
    (completion : Completion) (left : FileSystem) : Prop where
  compiled : Compiled host options bundle files start completion left
  succeeded : completion.succeeded = true
  unwritten : left.get? (place host options rawDeclarationFile) = none ∨
    left.get? (place host options rawDeclarationFile) = files.get? (place host options rawDeclarationFile)

variable {host : Host} {options : EmitOptions} {bundle : Bundle} {files : FileSystem} {start : Start}
  {completion : Completion} {left : FileSystem}

/-- **What a silent compiler seems to declare stood there before.** -/
theorem Silent.declared_before {declaration : Text} (h : Silent host options bundle files start completion left)
    (hread : left.readText host.here (options.workPath rawDeclarationFile) = .ok declaration) :
    ∃ content, files.get? (place host options rawDeclarationFile) = some (.file content) ∧
      Text.ofUtf8? content = some declaration := by
  obtain ⟨content, hcontent, hdecoded⟩ := FileSystem.readText_eq_ok_iff.1 hread
  have hthere := (FileSystem.read_eq_ok_iff.1 hcontent).2
  rw [location_rawDeclarationFile] at hthere
  rcases h.unwritten with hnone | hsame
  · rw [hthere] at hnone
    cases hnone
  · exact ⟨content, hsame.symm.trans hthere, hdecoded⟩

/-- An emission that misses the declaration has read in vain what the compiler left. -/
theorem notFound_of_course {starts : List Start} {path : Text} {after : FileSystem}
    (h : Course host options bundle files (.error (.noDeclaration path)) after starts)
    (hcompiled : Compiled host options bundle files start completion left) :
    left.readText host.here (options.workPath rawDeclarationFile) = .error .notFound := by
  cases h with
  | undeclared hcompiled' _ hread =>
    obtain ⟨-, -, rfl⟩ := hcompiled.unique hcompiled'
    exact hread

/-- An emission publishes what the compiler left. -/
theorem declared_of_course {starts : List Start} {emitted : Emitted} {after : FileSystem}
    (h : Course host options bundle files (.ok emitted) after starts)
    (hcompiled : Compiled host options bundle files start completion left) :
    ∃ declaration, left.readText host.here (options.workPath rawDeclarationFile) = .ok declaration ∧
      emitted = ⟨options.workPath (declarationFile bundle.name), Declaration.edit bundle.name declaration⟩ := by
  cases h with
  | published haccepted =>
    obtain ⟨⟨completion', hcompiled', -⟩, hread, -⟩ := haccepted
    obtain ⟨-, -, rfl⟩ := hcompiled.unique hcompiled'
    exact ⟨_, hread, rfl⟩

/-- **A missing declaration is missed just when there is nothing in its place**: then the emission fails for it and has
written the unit alone, and if it ends well instead, it has published what was there before the run. -/
theorem emit_undeclared_iff {world : World} (h : Silent host options bundle world.files start completion left) :
    (Run.outcome (emit host options bundle world) = .error (.noDeclaration (options.workPath rawDeclarationFile)) ∧
        SameButUnit host options world.files start.files ∧ (Run.final (emit host options bundle world)).files = left ↔
      left.readText host.here (options.workPath rawDeclarationFile) = .error .notFound) ∧
    (∀ location, left.locate host.here (options.workPath rawDeclarationFile) = .ok location →
      (left.readText host.here (options.workPath rawDeclarationFile) = .error .notFound ↔
        world.files.get? (place host options rawDeclarationFile) = none ∨
          left.get? (place host options rawDeclarationFile) = none)) ∧
    ∀ emitted, Run.outcome (emit host options bundle world) = .ok emitted →
      ∃ content declaration, world.files.get? (place host options rawDeclarationFile) = some (.file content) ∧
        Text.ofUtf8? content = some declaration ∧
        emitted = ⟨options.workPath (declarationFile bundle.name), Declaration.edit bundle.name declaration⟩ := by
  obtain ⟨starts, hcourse, -⟩ := course_of_emit host options bundle world
  refine ⟨⟨?_, ?_⟩, ?_, ?_⟩
  · rintro ⟨houtcome, -, -⟩
    rw [houtcome] at hcourse
    exact notFound_of_course hcourse h.compiled
  · intro hread
    obtain ⟨houtcome, hfiles, -⟩ := emit_of_course (.undeclared h.compiled h.succeeded hread)
    exact ⟨houtcome, h.compiled.sameButUnit, hfiles⟩
  · intro location hlocate
    rw [FileSystem.readText_eq_notFound_iff hlocate, FileSystem.location_of_locate hlocate, location_rawDeclarationFile]
    refine ⟨.inr, ?_⟩
    rintro (hbefore | hafter)
    · rcases h.unwritten with hnone | hsame
      · exact hnone
      · exact hsame.trans hbefore
    · exact hafter
  · intro emitted houtcome
    rw [houtcome] at hcourse
    obtain ⟨declaration, hread, hemitted⟩ := declared_of_course hcourse h.compiled
    obtain ⟨content, hthere, hdecoded⟩ := h.declared_before hread
    exact ⟨content, declaration, hthere, hdecoded, hemitted⟩

/-- A compiler that ends well and does nothing. -/
def quiet : Compiler :=
  fun _ _ files => (⟨some 0, [], []⟩, files)

/-- In a clean directory a quiet compiler is told from one that declares something. -/
theorem emit_undeclared_quiet :
    (∃ start completion left, Silent (hostWith quiet) (smallOptions false) ⟨['p'], [], [], .nil⟩ (smallFiles []) start completion
      left) ∧
    Run.outcome (emit (hostWith quiet) (smallOptions false) ⟨['p'], [], [], .nil⟩ (World.of (smallFiles []))) =
      .error (.noDeclaration "./index.d.ts".toList) := by
  have hsilent : ∃ start completion left,
      Silent (hostWith quiet) (smallOptions false) ⟨['p'], [], [], .nil⟩ (World.of (smallFiles [])).files start completion left ∧
        left.readText (hostWith quiet).here ((smallOptions false).workPath rawDeclarationFile) = .error .notFound :=
    ⟨_, _, _, ⟨.intro rfl rfl rfl rfl, rfl, .inl rfl⟩, rfl⟩
  obtain ⟨start, completion, left, h, hread⟩ := hsilent
  exact ⟨⟨start, completion, left, h⟩, ((emit_undeclared_iff h).1.2 hread).1⟩

/-- **A declaration that was left in the directory is published** although the compiler wrote none. -/
theorem emit_publishes_leftover :
    ∃ emitted after, emit (hostWith quiet) (smallOptions true) ⟨['p'], [], [], .nil⟩
          (World.of (smallFiles [smallSource "index.d.ts" "declare module p\nexport = p;"])) = .ok emitted after ∧
      emitted.edited.text = "declare module \"p\"\n".toList ∧
      after.files.get? ["p.d.ts".toList, ['w']] = some (.file (Text.utf8 emitted.edited.text)) ∧
      ∃ start completion left, Silent (hostWith quiet) (smallOptions true) ⟨['p'], [], [], .nil⟩
        (smallFiles [smallSource "index.d.ts" "declare module p\nexport = p;"]) start completion left := by
  refine ⟨_, _, rfl, by decide +kernel, by decide +kernel, _, _, _, .intro rfl rfl rfl rfl, rfl, .inr ?_⟩
  decide +kernel

end Emission
end DtsBundle
