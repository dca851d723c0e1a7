import DtsBundle.Proofs.Emission.Generation
/-!
# Strict and lenient emissions

Strictness is asked for in one place, when a declaration has been edited and nothing is removed yet.  So a strict and a
lenient emission of the same package go the same way up to there, and **a strict one is a lenient one unless an edit
found no place** (`AgreesWithLenient.same`); then it ends where the compiler left off, and says which edit it was, the
header before the export (`AgreesWithLenient.noHeader`, `AgreesWithLenient.noExport`).
-/
namespace DtsBundle

/-- The same emission, strict or not. -/
def EmitOptions.withStrict (options : EmitOptions) (strict : Bool) : EmitOptions :=
  { options with strict }

namespace Emission

variable (host : Host) (options : EmitOptions) (bundle : Bundle) (files : FileSystem)

/-- An emission comes to edit a declaration: its compiler ended well and left one that can be read. -/
structure Edits (start : Start) (declaration : Text) (left : FileSystem) : Prop where
  compiled : ∃ completion, Compiled host options bundle files start completion left ∧ completion.succeeded = true
  declared : left.readText host.here (options.workPath rawDeclarationFile) = .ok declaration

/-- How a strict emission of a package stands to a lenient one from the same files: it is the same if no declaration
comes to be edited, so that both fail, and if both edits find their place; else it fails on the files that the compiler
left. -/
structure AgreesWithLenient (strict lenient : EStateM.Result EmitError World Emitted) : Prop where
  early : (∀ start declaration left, ¬ Edits host options bundle files start declaration left) →
    strict = lenient ∧ ∃ error, Run.outcome strict = .error error
  same : ∀ start declaration left, Edits host options bundle files start declaration left →
    (Declaration.edit bundle.name declaration).isComplete = true → strict = lenient
  noHeader : ∀ start declaration left, Edits host options bundle files start declaration left →
    (Declaration.edit bundle.name declaration).headerQuoted = false →
      Run.outcome strict = .error (.noHeader bundle.name) ∧ (Run.final strict).files = left
  noExport : ∀ start declaration left, Edits host options bundle files start declaration left →
    (Declaration.edit bundle.name declaration).headerQuoted = true →
      (Declaration.edit bundle.name declaration).exportRemoved = false →
        Run.outcome strict = .error (.noExport bundle.name) ∧ (Run.final strict).files = left

variable {host options bundle files}

theorem Compiled.withStrict {start : Start} {completion : Completion} {left : FileSystem}
    (h : Compiled host options bundle files start completion left) (strict : Bool) :
    Compiled host (options.withStrict strict) bundle files start completion left := by
  obtain ⟨hwrite, hresolve, hstart, hrun⟩ := h
  exact .intro hwrite hresolve hstart hrun

theorem Edits.withStrict {start : Start} {declaration : Text} {left : FileSystem}
    (h : Edits host options bundle files start declaration left) (strict : Bool) :
    Edits host (options.withStrict strict) bundle files start declaration left := by
  obtain ⟨⟨completion, hcompiled, hsucceeded⟩, hread⟩ := h
  exact ⟨⟨completion, hcompiled.withStrict strict, hsucceeded⟩, hread⟩

theorem Edits.unique {start start' : Start} {declaration declaration' : Text} {left left' : FileSystem}
    (h : Edits host options bundle files start declaration left)
    (h' : Edits host options bundle files start' declaration' left') : declaration' = declaration := by
  obtain ⟨⟨completion, hcompiled, -⟩, hread⟩ := h
  obtain ⟨⟨completion', hcompiled', -⟩, hread'⟩ := h'
  obtain ⟨-, -, rfl⟩ := hcompiled.unique hcompiled'
  exact Except.ok.inj (hread'.symm.trans hread)

theorem Accepted.edits {start : Start} {declaration : Text} {left : FileSystem}
    (h : Accepted host options bundle files start declaration left) :
    Edits host options bundle files start declaration left :=
  ⟨h.compiled, h.declared⟩

/-! ## The same way -/

theorem publish_withStrict {name : Text} {world : World} (s s' : Bool)
    (h : ∀ declaration, world.files.readText host.here (options.workPath rawDeclarationFile) = .ok declaration →
      insistOnEdits s name (Declaration.edit name declaration) =
        insistOnEdits s' name (Declaration.edit name declaration)) :
    publish host (options.withStrict s) name world = publish host (options.withStrict s') name world := by
  cases hread : readDeclaration host (options.workPath rawDeclarationFile) world with
  | error error after => exact (Run.bind_of_error hread).trans (Run.bind_of_error hread).symm
  | ok declaration after =>
    have hdeclared := readText_of_readDeclaration hread
    refine (Run.bind_of_ok hread).trans (Eq.trans ?_ (Run.bind_of_ok hread).symm)
    refine (Run.bind_of_ok rfl).trans (Eq.trans ?_ (Run.bind_of_ok rfl).symm)
    show (Run.settle (insistOnEdits s name _) >>= _) _ = (Run.settle (insistOnEdits s' name _) >>= _) _
    rw [h declaration hdeclared]
    rfl

/-- Two emissions that differ in strictness are the same if the edits come to the same for both. -/
theorem emit_withStrict {world : World} (s s' : Bool)
    (h : ∀ start declaration left, Edits host options bundle world.files start declaration left →
      insistOnEdits s bundle.name (Declaration.edit bundle.name declaration) =
        insistOnEdits s' bundle.name (Declaration.edit bundle.name declaration)) :
    emit host (options.withStrict s) bundle world = emit host (options.withStrict s') bundle world := by
  cases hcompile : compile host options bundle world with
  | error error after =>
    have hstop : ∀ strict, emit host (options.withStrict strict) bundle world = .error error after := fun strict =>
      emit_of_uncompiled hcompile
    rw [hstop s, hstop s']
  | ok _ after =>
    have hgo : ∀ strict, emit host (options.withStrict strict) bundle world =
        publish host (options.withStrict strict) bundle.name after := fun strict => emit_of_compiled hcompile
    obtain ⟨start, completion, hcompiled, hsucceeded, -⟩ := compiled_of_compile hcompile
    rw [hgo s, hgo s']
    exact publish_withStrict s s' fun declaration hread =>
      h start declaration after.files ⟨⟨completion, hcompiled, hsucceeded⟩, hread⟩

/-! ## The whole emission -/

theorem emit_agreesWithLenient (host : Host) (options : EmitOptions) (bundle : Bundle) (world : World) :
    AgreesWithLenient host options bundle world.files (emit host (options.withStrict true) bundle world)
      (emit host (options.withStrict false) bundle world) where
  early hnone := by
    refine ⟨emit_withStrict true false fun start declaration left h => absurd h (hnone _ _ _), ?_⟩
    obtain ⟨starts, hcourse, -⟩ := course_of_emit host (options.withStrict true) bundle world
    cases houtcome : Run.outcome (emit host (options.withStrict true) bundle world) with
    | error error => exact ⟨error, rfl⟩
    | ok emitted =>
      rw [houtcome] at hcourse
      cases hcourse with
      | published haccepted => exact absurd (haccepted.edits.withStrict options.strict) (hnone _ _ _)
  same start declaration left h hcomplete := by
    refine emit_withStrict true false fun start' declaration' left' h' => ?_
    rw [h.unique h', insistOnEdits_of_complete fun _ => hcomplete, insistOnEdits_of_complete fun _ => hcomplete]
  noHeader start declaration left h hheader := by
    obtain ⟨⟨completion, hcompiled, hsucceeded⟩, hread⟩ := h.withStrict true
    obtain ⟨houtcome, hfiles, -⟩ := emit_of_course (.noHeader hcompiled hsucceeded hread rfl hheader)
    exact ⟨houtcome, hfiles⟩
  noExport start declaration left h hheader hexport := by
    obtain ⟨⟨completion, hcompiled, hsucceeded⟩, hread⟩ := h.withStrict true
    obtain ⟨houtcome, hfiles, -⟩ := emit_of_course (.noExport hcompiled hsucceeded hread rfl hheader hexport)
    exact ⟨houtcome, hfiles⟩

/-- **Strict and lenient runs agree**, whether a package is emitted or a layout generated: they are the same unless an
edit found no place, and then the strict one fails for it on what the compiler left. -/
theorem strict_agrees_with_lenient (host : Host) (options : EmitOptions) (world : World) :
    (∀ bundle, AgreesWithLenient host options bundle world.files (emit host (options.withStrict true) bundle world)
      (emit host (options.withStrict false) bundle world)) ∧
    ∀ name layout,
      (∀ error, ((options.sources host world.files).assemble name layout).2 = .error error →
        generate host (options.withStrict true) name layout world =
            generate host (options.withStrict false) name layout world ∧
          Run.outcome (generate host (options.withStrict true) name layout world) = .error (.build error)) ∧
      ∀ bundle, ((options.sources host world.files).assemble name layout).2 = .ok bundle →
        AgreesWithLenient host options bundle world.files (generate host (options.withStrict true) name layout world)
          (generate host (options.withStrict false) name layout world) := by
  refine ⟨fun bundle => emit_agreesWithLenient host options bundle world, fun name layout => ⟨?_, ?_⟩⟩
  · intro error h
    obtain ⟨log, hassemble⟩ := assemble_of_error h
    have hrun : ∀ strict, generate host (options.withStrict strict) name layout world =
        .error (.build error) { world with log } := fun strict => Run.bind_of_error hassemble
    rw [hrun, hrun]
    exact ⟨rfl, rfl⟩
  · intro bundle h
    obtain ⟨log, hassemble⟩ := assemble_of_ok h
    have hrun : ∀ strict, generate host (options.withStrict strict) name layout world =
        emit host (options.withStrict strict) bundle { world with log } := fun strict => Run.bind_of_ok hassemble
    rw [hrun, hrun]
    exact emit_agreesWithLenient host options bundle { world with log }

/-- Where no header is found, a lenient run ends well and a strict one leaves the compiler's declaration behind. -/
theorem strict_agrees_with_lenient_headerless :
    ∃ start left, Edits (smallHost ['d']) (smallOptions false) ⟨['p'], [], [], .nil⟩ (smallFiles []) start ['d'] left ∧
      (Declaration.edit ['p'] ['d']).headerQuoted = false ∧
      (∃ emitted, Run.outcome (emit (smallHost ['d']) (smallOptions false) ⟨['p'], [], [], .nil⟩
        (World.of (smallFiles []))) = .ok emitted) ∧
      Run.outcome (emit (smallHost ['d']) (smallOptions true) ⟨['p'], [], [], .nil⟩ (World.of (smallFiles []))) =
        .error (.noHeader ['p']) ∧
      (Run.final (emit (smallHost ['d']) (smallOptions true) ⟨['p'], [], [], .nil⟩ (World.of (smallFiles [])))).files =
        left ∧
      (left.get? [rawDeclarationFile, ['w']]).isSome = true := by
  have hedits : ∃ start left,
      Edits (smallHost ['d']) (smallOptions false) ⟨['p'], [], [], .nil⟩ (smallFiles []) start ['d'] left ∧
        (left.get? [rawDeclarationFile, ['w']]).isSome = true :=
    ⟨_, _, ⟨⟨_, .intro rfl rfl rfl rfl, by decide +kernel⟩, rfl⟩, by decide +kernel⟩
  obtain ⟨start, left, hedits, hleft⟩ := hedits
  have hheader : (Declaration.edit ['p'] ['d']).headerQuoted = false := by decide
  have hagrees := (strict_agrees_with_lenient (smallHost ['d']) (smallOptions false) (World.of (smallFiles []))).1
    ⟨['p'], [], [], .nil⟩
  obtain ⟨houtcome, hfiles⟩ := hagrees.noHeader start ['d'] left hedits hheader
  exact ⟨start, left, hedits, hheader, ⟨_, rfl⟩, houtcome, hfiles, hleft⟩

end Emission
end DtsBundle
