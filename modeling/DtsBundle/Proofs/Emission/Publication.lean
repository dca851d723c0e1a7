import DtsBundle.Proofs.Emission.Generation
import DtsBundle.Proofs.Identifier
/-!
# What a publication leaves

When a generation ends well, everything about its end is known from the files it began with and from what one start of
the compiler did: the compiler saw those files with the unit among them, and **the files at the end are the compiler's
with both files in between gone and the edited declaration at the place of the package** (`generate_publishes`).

The place of the package can be that of the raw declaration, for a package called `index` and for no other
(`declarationFile_eq_raw_iff`).  What is removed is removed before the declaration is written, so it is there at the end
for that package too.
-/
namespace DtsBundle.Emission

/-! ## The places of the three files -/

/-- The place of a file in the work directory. -/
def place (host : Host) (options : EmitOptions) (file : Text) : Location :=
  file :: Path.location host.here options.workDirectory

theorem place_inj {host : Host} {options : EmitOptions} {file other : Text} :
    place host options file = place host options other ↔ file = other := by
  rw [place, place, List.cons.injEq, and_iff_left rfl]

theorem location_unitFile (host : Host) (options : EmitOptions) :
    Path.location host.here (options.workPath unitFile) = place host options unitFile :=
  Path.location_join (by decide) (by decide)

theorem location_rawDeclarationFile (host : Host) (options : EmitOptions) :
    Path.location host.here (options.workPath rawDeclarationFile) = place host options rawDeclarationFile :=
  Path.location_join (by decide) (by decide)

theorem location_declarationFile {name : Text} (h : isIdentifier name = true) (host : Host) (options : EmitOptions) :
    Path.location host.here (options.workPath (declarationFile name)) = place host options (declarationFile name) := by
  refine Path.location_join ?_ ?_
  · have hslash : '/' ∉ name := not_mem_of_isIdentifier h (by decide)
    simp [declarationFile, hslash]
  · -- the two names that lead elsewhere are shorter than what the file's name ends with
    have hlong : 2 < (declarationFile name).length := by
      simp [declarationFile]
    intro hm
    simp only [List.mem_cons, List.not_mem_nil, or_false] at hm
    rcases hm with hempty | hdot | hdots
    · rw [hempty] at hlong; exact absurd hlong (by decide)
    · rw [hdot] at hlong; exact absurd hlong (by decide)
    · rw [hdots] at hlong; exact absurd hlong (by decide)

/-- **A package is published over the raw declaration just when it is called `index`.** -/
theorem declarationFile_eq_raw_iff {name : Text} : declarationFile name = rawDeclarationFile ↔ name = "index".toList := by
  have hraw : rawDeclarationFile = "index".toList ++ ".d.ts".toList := by decide
  rw [declarationFile, hraw, List.append_left_inj]

theorem declarationFile_ne_unit (name : Text) : declarationFile name ≠ unitFile := by
  have hunit : unitFile = "ind".toList ++ "ex.ts".toList := by decide
  intro h
  rw [declarationFile, hunit] at h
  exact absurd (List.append_inj_right' h rfl) (by decide)

/-! ## The files at the end -/

/-- The files that the compiler is started on: those that were there, with a package's unit in its place. -/
def given (host : Host) (options : EmitOptions) (bundle : Bundle) (files : FileSystem) : FileSystem :=
  files.set (place host options unitFile) (.file (Text.utf8 bundle.text))

variable {host : Host} {options : EmitOptions} {bundle : Bundle} {files : FileSystem}

theorem Compiled.started {start : Start} {completion : Completion} {left : FileSystem}
    (h : Compiled host options bundle files start completion left) :
    start.arguments = options.command.arguments unitFile ∧ start.files = given host options bundle files ∧
      ∃ program compiler, options.command.resolve host = .ok program ∧
        host.start start.files options.workDirectory program start.arguments = .ok (start.directory, compiler) ∧
        compiler start.directory start.arguments start.files = (completion, left) := by
  obtain ⟨hwrite, hresolve, hstart, hrun⟩ := h
  refine ⟨rfl, ?_, _, _, hresolve, hstart, hrun⟩
  obtain ⟨-, -, rfl⟩ := FileSystem.write_eq_ok_iff.1 hwrite
  rw [location_unitFile, given]

/-- Two files removed and one written, one place at a time. -/
theorem get?_of_publication {left bare clean done : FileSystem} {here : Location} {unit raw path : Text}
    {content : List UInt8} (hunit : left.remove here unit = .ok bare) (hraw : bare.remove here raw = .ok clean)
    (hwrite : clean.write here path content = .ok done) (location : Location) :
    done.get? location =
      if location = Path.location here path then some (.file content)
      else if location = Path.location here unit ∨ location = Path.location here raw then none
      else left.get? location := by
  obtain ⟨-, ⟨_, hunitThere⟩, rfl⟩ := FileSystem.remove_eq_ok_iff.1 hunit
  obtain ⟨-, ⟨_, hrawThere⟩, rfl⟩ := FileSystem.remove_eq_ok_iff.1 hraw
  obtain ⟨-, hfree, rfl⟩ := FileSystem.write_eq_ok_iff.1 hwrite
  by_cases hpath : location = Path.location here path
  · rw [if_pos hpath, hpath, FileSystem.get?_set_self (FileSystem.ne_root_of_get? hfree)]
  rw [if_neg hpath, FileSystem.get?_set_of_ne hpath]
  by_cases hr : location = Path.location here raw
  · rw [if_pos (.inr hr), hr, FileSystem.get?_erase_self (FileSystem.ne_root_of_file hrawThere)]
  rw [FileSystem.get?_erase_of_ne hr]
  by_cases hu : location = Path.location here unit
  · rw [if_pos (.inl hu), hu, FileSystem.get?_erase_self (FileSystem.ne_root_of_file hunitThere)]
  · rw [if_neg (fun e => e.elim hu hr), FileSystem.get?_erase_of_ne hu]

/-- What a generation did that ended well: what it built, how its one start of the compiler went and which files that
left, what declaration was found among them, what was published of it, and which files there are now. -/
structure Publication (host : Host) (options : EmitOptions) (name : Text) (layout : Layout) (files : FileSystem)
    (built : Bundle) (start : Start) (completion : Completion) (left : FileSystem) (raw : Text) (emitted : Emitted)
    (after : FileSystem) : Prop where
  build : ((options.sources host files).build name layout).2 = .ok built
  arguments : start.arguments = options.command.arguments unitFile
  files : start.files = given host options built.percolate.1 files
  compiler : ∃ program compiler, options.command.resolve host = .ok program ∧
    host.start start.files options.workDirectory program start.arguments = .ok (start.directory, compiler) ∧
    compiler start.directory start.arguments start.files = (completion, left)
  succeeded : completion.succeeded = true
  declared : ∃ content, left.get? (place host options rawDeclarationFile) = some (.file content) ∧
    Text.ofUtf8? content = some raw
  published : emitted = ⟨options.workPath (declarationFile name), Declaration.edit name raw⟩
  leaves : ∀ location, after.get? location =
    if location = place host options (declarationFile name) then some (.file (Text.utf8 emitted.edited.text))
    else if location = place host options unitFile ∨ location = place host options rawDeclarationFile then none
    else left.get? location

namespace Publication

variable {name : Text} {layout : Layout} {built : Bundle} {start : Start} {completion : Completion} {left : FileSystem}
  {raw : Text} {emitted : Emitted} {after : FileSystem}

theorem get?_declaration (h : Publication host options name layout files built start completion left raw emitted after) :
    after.get? (place host options (declarationFile name)) = some (.file (Text.utf8 emitted.edited.text)) := by
  rw [h.leaves, if_pos rfl]

theorem get?_unit (h : Publication host options name layout files built start completion left raw emitted after) :
    after.get? (place host options unitFile) = none := by
  have hne : place host options unitFile ≠ place host options (declarationFile name) :=
    fun e => declarationFile_ne_unit name (place_inj.1 e).symm
  rw [h.leaves, if_neg hne, if_pos (.inl rfl)]

theorem get?_raw (h : Publication host options name layout files built start completion left raw emitted after)
    (hname : name ≠ "index".toList) : after.get? (place host options rawDeclarationFile) = none := by
  have hne : place host options rawDeclarationFile ≠ place host options (declarationFile name) :=
    fun e => hname (declarationFile_eq_raw_iff.1 (place_inj.1 e).symm)
  rw [h.leaves, if_neg hne, if_pos (.inr rfl)]

end Publication

/-- **What a generation that ends well leaves**: the compiler's files without the two in between and with the edited
declaration, which the package called `index` has in the place of the raw one. -/
theorem generate_publishes {name : Text} {layout : Layout} {world after : World} {emitted : Emitted}
    (h : generate host options name layout world = .ok emitted after) :
    ∃ built start completion left raw,
      Publication host options name layout world.files built start completion left raw emitted after.files ∧
        after.starts = world.starts ++ [start] ∧
        after.files.get? (place host options unitFile) = none ∧
        (name ≠ "index".toList → after.files.get? (place host options rawDeclarationFile) = none) ∧
        (name = "index".toList →
          after.files.get? (place host options rawDeclarationFile) = some (.file (Text.utf8 emitted.edited.text))) := by
  rcases course_of_generate host options name layout world with
    ⟨error, -, hfailed, -⟩ | ⟨bundle, starts, hok, hcourse, hstarts⟩
  · rw [h] at hfailed
    cases hfailed
  obtain ⟨rfl, hname⟩ := Sources.name_of_assemble hok
  obtain ⟨built, hbuilt, rfl⟩ := Sources.assemble_eq_ok_iff.1 hok
  rw [h] at hcourse hstarts
  cases hcourse with | @published start raw left bare clean done haccepted hunit hraw hwrite => ?_
  obtain ⟨⟨completion, hcompiled, hsucceeded⟩, hread, -⟩ := haccepted
  obtain ⟨harguments, hfiles, hcompiler⟩ := hcompiled.started
  obtain ⟨content, hcontent, hdecoded⟩ := FileSystem.readText_eq_ok_iff.1 hread
  have hthere := (FileSystem.read_eq_ok_iff.1 hcontent).2
  rw [location_rawDeclarationFile] at hthere
  have hleaves := get?_of_publication hunit hraw hwrite
  rw [location_declarationFile hname, location_unitFile, location_rawDeclarationFile] at hleaves
  have hpublication : Publication host options _ layout world.files built start completion left raw _ after.files :=
    { build := hbuilt, arguments := harguments, files := hfiles, compiler := hcompiler, succeeded := hsucceeded,
      declared := ⟨content, hthere, hdecoded⟩, published := rfl, leaves := hleaves }
  refine ⟨built, start, completion, left, raw, hpublication, hstarts, hpublication.get?_unit, hpublication.get?_raw, ?_⟩
  intro hindex
  rw [← declarationFile_eq_raw_iff.2 hindex]
  exact hpublication.get?_declaration

/-- A package called `index` is published where the compiler put its own declaration. -/
theorem generate_publishes_index :
    ∃ emitted after,
      generate (smallHost "declare module index\nexport = index;".toList) (smallOptions true) "index".toList
        (.source ['a'] ['a'] .empty) (World.of (smallFiles [smallSource "a.ts" "x"])) = .ok emitted after ∧
      emitted.edited.text = "declare module \"index\"\n".toList ∧
      after.files.get? ["index.d.ts".toList, ['w']] = some (.file (Text.utf8 emitted.edited.text)) := by
  have hrun : ∃ emitted after,
      generate (smallHost "declare module index\nexport = index;".toList) (smallOptions true) "index".toList
        (.source ['a'] ['a'] .empty) (World.of (smallFiles [smallSource "a.ts" "x"])) = .ok emitted after ∧
      emitted.edited.text = "declare module \"index\"\n".toList := ⟨_, _, rfl, by decide +kernel⟩
  obtain ⟨emitted, after, hok, htext⟩ := hrun
  obtain ⟨built, start, completion, left, raw, -, -, -, -, hindex⟩ := generate_publishes hok
  exact ⟨emitted, after, hok, htext, hindex rfl⟩

end DtsBundle.Emission
