import DtsBundle.Emission.Basic
import DtsBundle.Proofs.Files.Change
/-!
# The course of an emission

Everything an emission can do, said once: `Course` has one rule for each way in which it ends, with what was found on
the way there, the files it leaves and the compilers it started.  **An emission takes a course, and whatever course is
open to it is the one it takes** (`course_of_emit`, `emit_of_course`); what holds of every outcome is then shown by the
rules of `Course`, and no proof has to look into the steps again.

The removal of the second file in between has no rule of its own: once the first could be removed, so can the other.
-/
namespace DtsBundle

namespace Run

variable {ε α β : Type}

/-- What a run gives. -/
def outcome : EStateM.Result ε World α → Except ε α
  | .ok a _ => .ok a
  | .error e _ => .error e

/-- The world that a run leaves. -/
def final : EStateM.Result ε World α → World
  | .ok _ world => world
  | .error _ world => world

theorem eq_error_of_outcome {result : EStateM.Result ε World α} {e : ε} (h : outcome result = .error e) :
    result = .error e (final result) := by
  cases result with
  | ok a world => cases h
  | error e' world => rw [Except.error.inj h]; rfl

theorem eq_ok_of_outcome {result : EStateM.Result ε World α} {a : α} (h : outcome result = .ok a) :
    result = .ok a (final result) := by
  cases result with
  | ok a' world => rw [Except.ok.inj h]; rfl
  | error e world => cases h

theorem bind_of_ok {step : Run ε α} {next : α → Run ε β} {world after : World} {a : α} (h : step world = .ok a after) :
    (step >>= next) world = next a after := by
  simp only [bind, EStateM.bind, h]

theorem bind_of_error {step : Run ε α} {next : α → Run ε β} {world after : World} {e : ε}
    (h : step world = .error e after) : (step >>= next) world = .error e after := by
  simp only [bind, EStateM.bind, h]

theorem settle_of_ok {result : Except ε α} {a : α} (h : result = .ok a) (world : World) :
    settle result world = .ok a world := by
  rw [h]
  rfl

theorem settle_of_error {result : Except ε α} {e : ε} (h : result = .error e) (world : World) :
    settle result world = .error e world := by
  rw [h]
  rfl

end Run

namespace Emission

variable (host : Host) (options : EmitOptions) (bundle : Bundle) (files : FileSystem)

/-! ## The rules -/

/-- The unit was written and a compiler started on it: where and on what, how it ended, and the files it left. -/
inductive Compiled : Start → Completion → FileSystem → Prop
  | intro {written left : FileSystem} {program : Text} {inside : Location} {compiler : Compiler} {completion : Completion}
    (hwrite : files.write host.here (options.workPath unitFile) (Text.utf8 bundle.text) = .ok written)
    (hresolve : options.command.resolve host = .ok program)
    (hstart : host.start written options.workDirectory program (options.command.arguments unitFile) =
      .ok (inside, compiler))
    (hrun : compiler inside (options.command.arguments unitFile) written = (completion, left)) :
    Compiled ⟨inside, options.command.arguments unitFile, written⟩ completion left

/-- A compiler ended well and left a declaration with which the emission goes on. -/
structure Accepted (start : Start) (declaration : Text) (left : FileSystem) : Prop where
  compiled : ∃ completion, Compiled host options bundle files start completion left ∧ completion.succeeded = true
  declared : left.readText host.here (options.workPath rawDeclarationFile) = .ok declaration
  edited : options.strict = true → (Declaration.edit bundle.name declaration).isComplete = true

/-- The ways in which an emission ends: what it gives, the files it leaves, and what it started. -/
inductive Course : Except EmitError Emitted → FileSystem → List Start → Prop
  | unitRefused {fault : FileFault}
    (hwrite : files.write host.here (options.workPath unitFile) (Text.utf8 bundle.text) = .error fault) :
    Course (.error (.file (options.workPath unitFile) fault)) files []
  | noProgram {written : FileSystem}
    (hwrite : files.write host.here (options.workPath unitFile) (Text.utf8 bundle.text) = .ok written)
    (hresolve : options.command.resolve host = .error (.compilerNotFound options.command.program)) :
    Course (.error (.compilerNotFound options.command.program)) written []
  | notStarted {written : FileSystem} {program : Text} {fault : FileFault}
    (hwrite : files.write host.here (options.workPath unitFile) (Text.utf8 bundle.text) = .ok written)
    (hresolve : options.command.resolve host = .ok program)
    (hstart : host.start written options.workDirectory program (options.command.arguments unitFile) = .error fault) :
    Course (.error (.compilerNotStarted options.command.program fault)) written []
  | compilerFailed {start : Start} {completion : Completion} {left : FileSystem}
    (hcompiled : Compiled host options bundle files start completion left)
    (hfailed : completion.succeeded = false) :
    Course (.error (.compilerFailed completion.status (Text.ofUtf8Lossy completion.output)
      (Text.ofUtf8Lossy completion.errors))) left [start]
  | undeclared {start : Start} {completion : Completion} {left : FileSystem}
    (hcompiled : Compiled host options bundle files start completion left)
    (hsucceeded : completion.succeeded = true)
    (hread : left.readText host.here (options.workPath rawDeclarationFile) = .error .notFound) :
    Course (.error (.noDeclaration (options.workPath rawDeclarationFile))) left [start]
  | unreadable {start : Start} {completion : Completion} {left : FileSystem} {fault : FileFault}
    (hcompiled : Compiled host options bundle files start completion left)
    (hsucceeded : completion.succeeded = true)
    (hread : left.readText host.here (options.workPath rawDeclarationFile) = .error fault)
    (hfault : fault ≠ .notFound) :
    Course (.error (.file (options.workPath rawDeclarationFile) fault)) left [start]
  | noHeader {start : Start} {completion : Completion} {left : FileSystem} {declaration : Text}
    (hcompiled : Compiled host options bundle files start completion left)
    (hsucceeded : completion.succeeded = true)
    (hread : left.readText host.here (options.workPath rawDeclarationFile) = .ok declaration)
    (hstrict : options.strict = true)
    (hheader : (Declaration.edit bundle.name declaration).headerQuoted = false) :
    Course (.error (.noHeader bundle.name)) left [start]
  | noExport {start : Start} {completion : Completion} {left : FileSystem} {declaration : Text}
    (hcompiled : Compiled host options bundle files start completion left)
    (hsucceeded : completion.succeeded = true)
    (hread : left.readText host.here (options.workPath rawDeclarationFile) = .ok declaration)
    (hstrict : options.strict = true)
    (hheader : (Declaration.edit bundle.name declaration).headerQuoted = true)
    (hexport : (Declaration.edit bundle.name declaration).exportRemoved = false) :
    Course (.error (.noExport bundle.name)) left [start]
  | unitLost {start : Start} {declaration : Text} {left : FileSystem} {fault : FileFault}
    (haccepted : Accepted host options bundle files start declaration left)
    (hremove : left.remove host.here (options.workPath unitFile) = .error fault) :
    Course (.error (.file (options.workPath unitFile) fault)) left [start]
  | unpublished {start : Start} {declaration : Text} {left bare clean : FileSystem} {fault : FileFault}
    (haccepted : Accepted host options bundle files start declaration left)
    (hunit : left.remove host.here (options.workPath unitFile) = .ok bare)
    (hraw : bare.remove host.here (options.workPath rawDeclarationFile) = .ok clean)
    (hwrite : clean.write host.here (options.workPath (declarationFile bundle.name))
      (Text.utf8 (Declaration.edit bundle.name declaration).text) = .error fault) :
    Course (.error (.file (options.workPath (declarationFile bundle.name)) fault)) clean [start]
  | published {start : Start} {declaration : Text} {left bare clean done : FileSystem}
    (haccepted : Accepted host options bundle files start declaration left)
    (hunit : left.remove host.here (options.workPath unitFile) = .ok bare)
    (hraw : bare.remove host.here (options.workPath rawDeclarationFile) = .ok clean)
    (hwrite : clean.write host.here (options.workPath (declarationFile bundle.name))
      (Text.utf8 (Declaration.edit bundle.name declaration).text) = .ok done) :
    Course (.ok ⟨options.workPath (declarationFile bundle.name), Declaration.edit bundle.name declaration⟩) done [start]

variable {host options bundle files}

theorem Compiled.unique {start start' : Start} {completion completion' : Completion} {left left' : FileSystem}
    (h : Compiled host options bundle files start completion left)
    (h' : Compiled host options bundle files start' completion' left') :
    start' = start ∧ completion' = completion ∧ left' = left := by
  obtain ⟨hwrite, hresolve, hstart, hrun⟩ := h
  obtain ⟨hwrite', hresolve', hstart', hrun'⟩ := h'
  obtain rfl := Except.ok.inj (hwrite.symm.trans hwrite')
  obtain rfl := Except.ok.inj (hresolve.symm.trans hresolve')
  obtain ⟨rfl, rfl⟩ := Prod.mk.inj (Except.ok.inj (hstart.symm.trans hstart'))
  obtain ⟨rfl, rfl⟩ := Prod.mk.inj (hrun.symm.trans hrun')
  exact ⟨rfl, rfl, rfl⟩

/-! ## The steps -/

theorem write_of_ok {world : World} {path content : Text} {written : FileSystem}
    (h : world.files.write host.here path (Text.utf8 content) = .ok written) :
    write host path content world = .ok () { world with files := written } := by
  simp only [write, Run.change, h]
  rfl

theorem write_of_error {world : World} {path content : Text} {fault : FileFault}
    (h : world.files.write host.here path (Text.utf8 content) = .error fault) :
    write host path content world = .error (.file path fault) world := by
  simp only [write, Run.change, h]
  rfl

theorem remove_of_ok {world : World} {path : Text} {left : FileSystem}
    (h : world.files.remove host.here path = .ok left) :
    remove host path world = .ok () { world with files := left } := by
  simp only [remove, Run.change, h]
  rfl

theorem remove_of_error {world : World} {path : Text} {fault : FileFault}
    (h : world.files.remove host.here path = .error fault) :
    remove host path world = .error (.file path fault) world := by
  simp only [remove, Run.change, h]
  rfl

theorem compile_of_unitRefused {world : World} {fault : FileFault}
    (hwrite : world.files.write host.here (options.workPath unitFile) (Text.utf8 bundle.text) = .error fault) :
    compile host options bundle world = .error (.file (options.workPath unitFile) fault) world :=
  Run.bind_of_error (write_of_error hwrite)

theorem compile_of_noProgram {world : World} {written : FileSystem} {error : EmitError}
    (hwrite : world.files.write host.here (options.workPath unitFile) (Text.utf8 bundle.text) = .ok written)
    (hresolve : options.command.resolve host = .error error) :
    ∃ log, compile host options bundle world = .error error ⟨written, log, world.starts⟩ := by
  refine ⟨world.log ++ [.wroteUnit (options.workPath unitFile)], (Run.bind_of_ok (write_of_ok hwrite)).trans ?_⟩
  refine (Run.bind_of_ok rfl).trans ?_
  exact Run.bind_of_error (Run.bind_of_error (Run.settle_of_error hresolve _))

theorem compile_of_notStarted {world : World} {written : FileSystem} {program : Text} {fault : FileFault}
    (hwrite : world.files.write host.here (options.workPath unitFile) (Text.utf8 bundle.text) = .ok written)
    (hresolve : options.command.resolve host = .ok program)
    (hstart : host.start written options.workDirectory program (options.command.arguments unitFile) = .error fault) :
    ∃ log, compile host options bundle world =
      .error (.compilerNotStarted options.command.program fault) ⟨written, log, world.starts⟩ := by
  refine ⟨world.log ++ [.wroteUnit (options.workPath unitFile)]
    ++ [.running program (options.command.arguments unitFile)], (Run.bind_of_ok (write_of_ok hwrite)).trans ?_⟩
  refine (Run.bind_of_ok rfl).trans ?_
  refine Run.bind_of_error ((Run.bind_of_ok (Run.settle_of_ok hresolve _)).trans ?_)
  refine (Run.bind_of_ok rfl).trans ?_
  simp only [Command.execute, hstart]

theorem compile_of_compiled {world : World} {start : Start} {completion : Completion} {left : FileSystem}
    (h : Compiled host options bundle world.files start completion left) :
    ∃ log, compile host options bundle world =
      (do Run.settle (insistOnSuccess completion); Run.report [.compiled] : Run EmitError Unit)
        ⟨left, log, world.starts ++ [start]⟩ := by
  obtain @⟨written, left, program, inside, compiler, completion, hwrite, hresolve, hstart, hrun⟩ := h
  refine ⟨world.log ++ [.wroteUnit (options.workPath unitFile)]
    ++ [.running program (options.command.arguments unitFile)], (Run.bind_of_ok (write_of_ok hwrite)).trans ?_⟩
  refine (Run.bind_of_ok rfl).trans ?_
  refine Run.bind_of_ok ((Run.bind_of_ok (Run.settle_of_ok hresolve _)).trans ?_)
  refine (Run.bind_of_ok rfl).trans ?_
  simp only [Command.execute, hstart, hrun]

theorem compile_of_failed {world : World} {start : Start} {completion : Completion} {left : FileSystem}
    (h : Compiled host options bundle world.files start completion left) (hfailed : completion.succeeded = false) :
    ∃ log, compile host options bundle world =
      .error (.compilerFailed completion.status (Text.ofUtf8Lossy completion.output)
        (Text.ofUtf8Lossy completion.errors)) ⟨left, log, world.starts ++ [start]⟩ := by
  obtain ⟨log, hrun⟩ := compile_of_compiled h
  refine ⟨log, hrun.trans (Run.bind_of_error (Run.settle_of_error ?_ _))⟩
  simp [insistOnSuccess, hfailed]

theorem compile_of_succeeded {world : World} {start : Start} {completion : Completion} {left : FileSystem}
    (h : Compiled host options bundle world.files start completion left) (hsucceeded : completion.succeeded = true) :
    ∃ log, compile host options bundle world = .ok () ⟨left, log, world.starts ++ [start]⟩ := by
  obtain ⟨log, hrun⟩ := compile_of_compiled h
  have hsettle : insistOnSuccess completion = .ok () := by simp [insistOnSuccess, hsucceeded]
  exact ⟨log ++ [.compiled], hrun.trans (Run.bind_of_ok (Run.settle_of_ok hsettle _))⟩

/-- A compilation that goes on has started a compiler, which ended well. -/
theorem compiled_of_compile {world after : World} (h : compile host options bundle world = .ok () after) :
    ∃ start completion, Compiled host options bundle world.files start completion after.files ∧
      completion.succeeded = true ∧ after.starts = world.starts ++ [start] := by
  cases hwrite : world.files.write host.here (options.workPath unitFile) (Text.utf8 bundle.text) with
  | error fault =>
    rw [compile_of_unitRefused hwrite] at h
    cases h
  | ok written =>
    cases hresolve : options.command.resolve host with
    | error error =>
      obtain ⟨log, hrun⟩ := compile_of_noProgram hwrite hresolve
      rw [hrun] at h
      cases h
    | ok program =>
      cases hstart : host.start written options.workDirectory program (options.command.arguments unitFile) with
      | error fault =>
        obtain ⟨log, hrun⟩ := compile_of_notStarted hwrite hresolve hstart
        rw [hrun] at h
        cases h
      | ok started =>
        have hcompiled := Compiled.intro hwrite hresolve hstart rfl
        cases hsucceeded : (started.2 started.1 (options.command.arguments unitFile) written).1.succeeded with
        | false =>
          obtain ⟨log, hrun⟩ := compile_of_failed hcompiled hsucceeded
          rw [hrun] at h
          cases h
        | true =>
          obtain ⟨log, hrun⟩ := compile_of_succeeded hcompiled hsucceeded
          rw [hrun] at h
          cases h
          exact ⟨_, _, hcompiled, hsucceeded, rfl⟩

theorem publish_of_undeclared {world : World} {name : Text}
    (hread : world.files.readText host.here (options.workPath rawDeclarationFile) = .error .notFound) :
    publish host options name world = .error (.noDeclaration (options.workPath rawDeclarationFile)) world :=
  Run.bind_of_error (by simp only [readDeclaration, hread])

theorem publish_of_unreadable {world : World} {name : Text} {fault : FileFault}
    (hread : world.files.readText host.here (options.workPath rawDeclarationFile) = .error fault)
    (hfault : fault ≠ .notFound) :
    publish host options name world = .error (.file (options.workPath rawDeclarationFile) fault) world := by
  refine Run.bind_of_error ?_
  simp only [readDeclaration, hread]

theorem readDeclaration_of_ok {world : World} {path declaration : Text}
    (hread : world.files.readText host.here path = .ok declaration) :
    readDeclaration host path world = .ok declaration world := by
  simp only [readDeclaration, hread]

theorem readText_of_readDeclaration {world after : World} {path declaration : Text}
    (h : readDeclaration host path world = .ok declaration after) :
    world.files.readText host.here path = .ok declaration := by
  rw [readDeclaration] at h
  split at h
  · rename_i found hread
    cases h
    exact hread
  · cases h
  · cases h

theorem publish_of_refusedEdit (world : World) {name declaration : Text} {error : EmitError}
    (hread : world.files.readText host.here (options.workPath rawDeclarationFile) = .ok declaration)
    (hedit : insistOnEdits options.strict name (Declaration.edit name declaration) = .error error) :
    ∃ log, publish host options name world = .error error { world with log } := by
  refine ⟨world.log ++ (Declaration.edit name declaration).events name,
    (Run.bind_of_ok (readDeclaration_of_ok hread)).trans ?_⟩
  refine (Run.bind_of_ok rfl).trans ?_
  exact Run.bind_of_error (Run.settle_of_error hedit _)

theorem insistOnEdits_of_noHeader {strict : Bool} {name : Text} {edited : Edited} (hstrict : strict = true)
    (hheader : edited.headerQuoted = false) : insistOnEdits strict name edited = .error (.noHeader name) := by
  rw [insistOnEdits, hstrict, hheader]
  rfl

theorem insistOnEdits_of_noExport {strict : Bool} {name : Text} {edited : Edited} (hstrict : strict = true)
    (hheader : edited.headerQuoted = true) (hexport : edited.exportRemoved = false) :
    insistOnEdits strict name edited = .error (.noExport name) := by
  rw [insistOnEdits, hstrict, hheader, hexport]
  rfl

theorem insistOnEdits_of_complete {strict : Bool} {name : Text} {edited : Edited}
    (h : strict = true → edited.isComplete = true) : insistOnEdits strict name edited = .ok () := by
  cases strict with
  | false => rfl
  | true =>
    obtain ⟨hheader, hexport⟩ : edited.headerQuoted = true ∧ edited.exportRemoved = true := by
      simpa [Edited.isComplete] using h rfl
    simp [insistOnEdits, hheader, hexport]

/-- An accepted declaration is published in three steps, and the files in between go first. -/
theorem publish_of_accepted (world : World) {name declaration : Text}
    (hread : world.files.readText host.here (options.workPath rawDeclarationFile) = .ok declaration)
    (hedit : options.strict = true → (Declaration.edit name declaration).isComplete = true) :
    ∃ log, publish host options name world =
      (do
        remove host (options.workPath unitFile)
        remove host (options.workPath rawDeclarationFile)
        write host (options.workPath (declarationFile name)) (Declaration.edit name declaration).text
        Run.report [.wroteDeclaration (declarationFile name)]
        return ⟨options.workPath (declarationFile name), Declaration.edit name declaration⟩ : Run EmitError Emitted)
        { world with log } := by
  refine ⟨world.log ++ (Declaration.edit name declaration).events name,
    (Run.bind_of_ok (readDeclaration_of_ok hread)).trans ?_⟩
  refine (Run.bind_of_ok rfl).trans ?_
  exact Run.bind_of_ok (Run.settle_of_ok (insistOnEdits_of_complete hedit) _)

theorem emit_of_uncompiled {world after : World} {error : EmitError}
    (h : compile host options bundle world = .error error after) : emit host options bundle world = .error error after :=
  Run.bind_of_error h

theorem emit_of_compiled {world after : World} (h : compile host options bundle world = .ok () after) :
    emit host options bundle world = publish host options bundle.name after :=
  Run.bind_of_ok h

theorem emit_of_accepted {world : World} {start : Start} {declaration : Text} {left : FileSystem}
    (h : Accepted host options bundle world.files start declaration left) :
    ∃ log, emit host options bundle world =
      (do
        remove host (options.workPath unitFile)
        remove host (options.workPath rawDeclarationFile)
        write host (options.workPath (declarationFile bundle.name)) (Declaration.edit bundle.name declaration).text
        Run.report [.wroteDeclaration (declarationFile bundle.name)]
        return ⟨options.workPath (declarationFile bundle.name), Declaration.edit bundle.name declaration⟩ :
          Run EmitError Emitted) ⟨left, log, world.starts ++ [start]⟩ := by
  obtain ⟨⟨completion, hcompiled, hsucceeded⟩, hread, hedit⟩ := h
  obtain ⟨log, hcompile⟩ := compile_of_succeeded hcompiled hsucceeded
  obtain ⟨log', hpublish⟩ := publish_of_accepted ⟨left, log, world.starts ++ [start]⟩ hread hedit
  exact ⟨log', (emit_of_compiled hcompile).trans hpublish⟩

/-! ## A run and its course -/

/-- **A course that is open to an emission is the one it takes.** -/
theorem emit_of_course {world : World} {outcome : Except EmitError Emitted} {left : FileSystem} {starts : List Start}
    (h : Course host options bundle world.files outcome left starts) :
    Run.outcome (emit host options bundle world) = outcome ∧
      (Run.final (emit host options bundle world)).files = left ∧
      (Run.final (emit host options bundle world)).starts = world.starts ++ starts := by
  cases h with
  | unitRefused hwrite =>
    rw [emit_of_uncompiled (compile_of_unitRefused hwrite)]
    exact ⟨rfl, rfl, (List.append_nil _).symm⟩
  | noProgram hwrite hresolve =>
    obtain ⟨log, hcompile⟩ := compile_of_noProgram hwrite hresolve
    rw [emit_of_uncompiled hcompile]
    exact ⟨rfl, rfl, (List.append_nil _).symm⟩
  | notStarted hwrite hresolve hstart =>
    obtain ⟨log, hcompile⟩ := compile_of_notStarted hwrite hresolve hstart
    rw [emit_of_uncompiled hcompile]
    exact ⟨rfl, rfl, (List.append_nil _).symm⟩
  | compilerFailed hcompiled hfailed =>
    obtain ⟨log, hcompile⟩ := compile_of_failed hcompiled hfailed
    rw [emit_of_uncompiled hcompile]
    exact ⟨rfl, rfl, rfl⟩
  | undeclared hcompiled hsucceeded hread =>
    obtain ⟨log, hcompile⟩ := compile_of_succeeded hcompiled hsucceeded
    rw [(emit_of_compiled hcompile).trans (publish_of_undeclared hread)]
    exact ⟨rfl, rfl, rfl⟩
  | unreadable hcompiled hsucceeded hread hfault =>
    obtain ⟨log, hcompile⟩ := compile_of_succeeded hcompiled hsucceeded
    rw [(emit_of_compiled hcompile).trans (publish_of_unreadable hread hfault)]
    exact ⟨rfl, rfl, rfl⟩
  | noHeader hcompiled hsucceeded hread hstrict hheader =>
    obtain ⟨log, hcompile⟩ := compile_of_succeeded hcompiled hsucceeded
    obtain ⟨log', hpublish⟩ := publish_of_refusedEdit ⟨left, log, world.starts ++ [_]⟩ hread
      (insistOnEdits_of_noHeader hstrict hheader)
    rw [(emit_of_compiled hcompile).trans hpublish]
    exact ⟨rfl, rfl, rfl⟩
  | noExport hcompiled hsucceeded hread hstrict hheader hexport =>
    obtain ⟨log, hcompile⟩ := compile_of_succeeded hcompiled hsucceeded
    obtain ⟨log', hpublish⟩ := publish_of_refusedEdit ⟨left, log, world.starts ++ [_]⟩ hread
      (insistOnEdits_of_noExport hstrict hheader hexport)
    rw [(emit_of_compiled hcompile).trans hpublish]
    exact ⟨rfl, rfl, rfl⟩
  | unitLost haccepted hremove =>
    obtain ⟨log, hrun⟩ := emit_of_accepted haccepted
    rw [hrun.trans (Run.bind_of_error (remove_of_error hremove))]
    exact ⟨rfl, rfl, rfl⟩
  | unpublished haccepted hunit hraw hwrite =>
    obtain ⟨log, hrun⟩ := emit_of_accepted haccepted
    have hbare := hrun.trans (Run.bind_of_ok (remove_of_ok hunit))
    have hclean := hbare.trans (Run.bind_of_ok (remove_of_ok hraw))
    rw [hclean.trans (Run.bind_of_error (write_of_error hwrite))]
    exact ⟨rfl, rfl, rfl⟩
  | published haccepted hunit hraw hwrite =>
    obtain ⟨log, hrun⟩ := emit_of_accepted haccepted
    have hbare := hrun.trans (Run.bind_of_ok (remove_of_ok hunit))
    have hclean := hbare.trans (Run.bind_of_ok (remove_of_ok hraw))
    rw [hclean.trans (Run.bind_of_ok (write_of_ok hwrite))]
    exact ⟨rfl, rfl, rfl⟩

theorem location_unit_ne_raw (here : Location) (options : EmitOptions) :
    Path.location here (options.workPath rawDeclarationFile) ≠ Path.location here (options.workPath unitFile) := by
  rw [EmitOptions.workPath, EmitOptions.workPath, Path.location_join (by decide) (by decide),
    Path.location_join (by decide) (by decide)]
  exact fun e => absurd (List.cons.inj e).1 (by decide)

/-- Once the unit could be removed, so can the declaration that was read. -/
theorem remove_raw_of_remove_unit {left bare : FileSystem} {declaration : Text}
    (hread : left.readText host.here (options.workPath rawDeclarationFile) = .ok declaration)
    (hunit : left.remove host.here (options.workPath unitFile) = .ok bare) :
    ∃ clean, bare.remove host.here (options.workPath rawDeclarationFile) = .ok clean := by
  obtain ⟨content, hcontent, -⟩ := FileSystem.readText_eq_ok_iff.1 hread
  have hkept := FileSystem.read_of_remove hunit (location_unit_ne_raw host.here options) hcontent
  obtain ⟨hlocate, hget⟩ := FileSystem.read_eq_ok_iff.1 hkept
  exact ⟨_, FileSystem.remove_eq_ok_iff.2 ⟨hlocate, ⟨content, hget⟩, rfl⟩⟩

theorem exists_course_of_accepted {start : Start} {declaration : Text} {left : FileSystem}
    (h : Accepted host options bundle files start declaration left) :
    ∃ outcome after, Course host options bundle files outcome after [start] := by
  cases hunit : left.remove host.here (options.workPath unitFile) with
  | error fault => exact ⟨_, _, .unitLost h hunit⟩
  | ok bare =>
    obtain ⟨clean, hraw⟩ := remove_raw_of_remove_unit h.declared hunit
    cases hwrite : clean.write host.here (options.workPath (declarationFile bundle.name))
        (Text.utf8 (Declaration.edit bundle.name declaration).text) with
    | error fault => exact ⟨_, _, .unpublished h hunit hraw hwrite⟩
    | ok done => exact ⟨_, _, .published h hunit hraw hwrite⟩

theorem exists_course_of_compiled {start : Start} {completion : Completion} {left : FileSystem}
    (h : Compiled host options bundle files start completion left) :
    ∃ outcome after, Course host options bundle files outcome after [start] := by
  cases hsucceeded : completion.succeeded with
  | false => exact ⟨_, _, .compilerFailed h hsucceeded⟩
  | true =>
    cases hread : left.readText host.here (options.workPath rawDeclarationFile) with
    | error fault =>
      by_cases hfault : fault = .notFound
      · rw [hfault] at hread
        exact ⟨_, _, .undeclared h hsucceeded hread⟩
      · exact ⟨_, _, .unreadable h hsucceeded hread hfault⟩
    | ok declaration =>
      by_cases hedit : options.strict = true → (Declaration.edit bundle.name declaration).isComplete = true
      · exact exists_course_of_accepted ⟨⟨completion, h, hsucceeded⟩, hread, hedit⟩
      · obtain ⟨hstrict, hmissed⟩ := Classical.not_imp.1 hedit
        cases hheader : (Declaration.edit bundle.name declaration).headerQuoted with
        | false => exact ⟨_, _, .noHeader h hsucceeded hread hstrict hheader⟩
        | true =>
          have hexport : (Declaration.edit bundle.name declaration).exportRemoved = false := by
            simpa [Edited.isComplete, hheader] using hmissed
          exact ⟨_, _, .noExport h hsucceeded hread hstrict hheader hexport⟩

theorem resolve_eq_error {command : Command} {error : EmitError} (h : command.resolve host = .error error) :
    error = .compilerNotFound command.program := by
  rw [Command.resolve] at h
  split at h
  · cases h
  · split at h
    · cases h
    · split at h
      · cases h
      · exact (Except.error.inj h).symm

/-- Some course is open to every emission. -/
theorem exists_course (host : Host) (options : EmitOptions) (bundle : Bundle) (files : FileSystem) :
    ∃ outcome after starts, Course host options bundle files outcome after starts := by
  cases hwrite : files.write host.here (options.workPath unitFile) (Text.utf8 bundle.text) with
  | error fault => exact ⟨_, _, _, .unitRefused hwrite⟩
  | ok written =>
    cases hresolve : options.command.resolve host with
    | error error =>
      obtain rfl := resolve_eq_error hresolve
      exact ⟨_, _, _, .noProgram hwrite hresolve⟩
    | ok program =>
      cases hstart : host.start written options.workDirectory program (options.command.arguments unitFile) with
      | error fault => exact ⟨_, _, _, .notStarted hwrite hresolve hstart⟩
      | ok started =>
        obtain ⟨outcome, after, h⟩ := exists_course_of_compiled (.intro hwrite hresolve hstart rfl)
        exact ⟨outcome, after, _, h⟩

/-- **An emission takes a course.** -/
theorem course_of_emit (host : Host) (options : EmitOptions) (bundle : Bundle) (world : World) :
    ∃ starts, Course host options bundle world.files (Run.outcome (emit host options bundle world))
        (Run.final (emit host options bundle world)).files starts ∧
      (Run.final (emit host options bundle world)).starts = world.starts ++ starts := by
  obtain ⟨outcome, after, starts, h⟩ := exists_course host options bundle world.files
  obtain ⟨houtcome, hfiles, hstarts⟩ := emit_of_course h
  refine ⟨starts, ?_, hstarts⟩
  rw [houtcome, hfiles]
  exact h

theorem course_of_emit_error {world after : World} {error : EmitError}
    (h : emit host options bundle world = .error error after) :
    ∃ starts, Course host options bundle world.files (.error error) after.files starts := by
  obtain ⟨starts, hcourse, -⟩ := course_of_emit host options bundle world
  rw [h] at hcourse
  exact ⟨starts, hcourse⟩

end Emission
end DtsBundle
