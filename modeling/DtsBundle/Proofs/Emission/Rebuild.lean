import DtsBundle.Proofs.Emission.Leftovers
/-!
# Every run is a first run

A run leaves files in the work directory, and the next run finds them: the unit, the raw declaration, the program that the
compiler wrote, and the published declaration.  Nothing is read of them before it is written: **two runs that find different
leftovers end alike and publish the same** (`generate_rebuilds`), if the compiler does not look at them either and declares
something whenever it ends well.

The paths of the run may not lead through a leftover: a path through a file is refused for another cause than one through
nothing, so that a leftover can be told by the failure.  And to run once more is to run the first time only as far as the
compiler leaves nothing else that it looks at (`generate_sees_leftover`).

Both runs are followed rule by rule of `Course`: the files of the one agree with those of the other but in the leftovers
that have not been written yet.
-/
namespace DtsBundle

open FileSystem (SameBut)

namespace Emission

/-- A compiler that was given two systems ended in both alike and changed the same in them, a declaration included if it
ended well. -/
structure EndsAlike (host : Host) (options : EmitOptions) (files files' : FileSystem)
    (ran ran' : Completion × FileSystem) : Prop where
  completion : ran'.1 = ran.1
  effect : ∀ location, ran.2.get? location = ran'.2.get? location ∨
    ran.2.get? location = files.get? location ∧ ran'.2.get? location = files'.get? location
  declaration : ran.1.succeeded = true → ∃ content,
    ran.2.get? (place host options rawDeclarationFile) = some (.file content) ∧
      ran'.2.get? (place host options rawDeclarationFile) = some (.file content)

/-- A compiler that looks at no leftover but the unit. -/
def Oblivious (host : Host) (options : EmitOptions) (name : Text) (run : FileSystem → Completion × FileSystem) : Prop :=
  ∀ {files files'}, SameBut (IsLeftover host options name [unitFile]) files files' →
    EndsAlike host options files files' (run files) (run files')

/-- The work directory and the program are found on paths that avoid the leftovers, and the program looks at none. -/
structure Isolated (host : Host) (options : EmitOptions) (name : Text) : Prop where
  work : Path.Avoids (IsLeftover host options name []) host.here options.workDirectory
  program : ∀ {program}, options.command.resolve host = .ok program →
    Path.Avoids (IsLeftover host options name []) (Path.location host.here options.workDirectory) program
  compiler : ∀ {program compiler}, options.command.resolve host = .ok program →
    host.installed (Path.location (Path.location host.here options.workDirectory) program) = some compiler →
    Oblivious host options name
      (compiler (Path.location host.here options.workDirectory) (options.command.arguments unitFile))

variable {host : Host} {options : EmitOptions} {name : Text} {written : List Text}

theorem Isolated.way (h : Isolated host options name) {file : Text} (hfile : '/' ∉ file) (written : List Text) :
    ∀ location ∈ Path.way host.here (options.workPath file), ¬ IsLeftover host options name written location := by
  intro location hlocation hleftover
  rcases Path.mem_way_join hfile hlocation with hway | rfl
  · exact h.work.through location hway hleftover.nil
  · exact h.work.endpoint hleftover.nil

theorem Isolated.avoids_unit (h : Isolated host options name) (hm : unitFile ∈ written) :
    Path.Avoids (IsLeftover host options name written) host.here (options.workPath unitFile) :=
  ⟨h.way (by decide) written, by rw [location_unitFile]; exact not_isLeftover hm⟩

theorem Isolated.avoids_raw (h : Isolated host options name) (hm : rawDeclarationFile ∈ written) :
    Path.Avoids (IsLeftover host options name written) host.here (options.workPath rawDeclarationFile) :=
  ⟨h.way (by decide) written, by rw [location_rawDeclarationFile]; exact not_isLeftover hm⟩

/-! ## Two runs, side by side -/

variable {bundle : Bundle} {files files' : FileSystem}

theorem Isolated.write_unit (h : Isolated host options name) (hfiles : SameBut (IsLeftover host options name []) files files')
    {content : List UInt8} {done : FileSystem} (hwrite : files.write host.here (options.workPath unitFile) content = .ok done) :
    ∃ done', files'.write host.here (options.workPath unitFile) content = .ok done' ∧
      SameBut (IsLeftover host options name [unitFile]) done done' := by
  obtain ⟨done', hwrite', hdone⟩ := hfiles.write_of_ok (h.way (by decide) []) hwrite
  rw [location_unitFile] at hdone
  exact ⟨done', hwrite', hdone.mono fun _ => IsLeftover.of_ne⟩

theorem Isolated.start_eq (h : Isolated host options name)
    (hfiles : SameBut (IsLeftover host options name [unitFile]) files files') {program : Text}
    (hresolve : options.command.resolve host = .ok program) (arguments : List Text) :
    host.start files options.workDirectory program arguments = host.start files' options.workDirectory program arguments :=
  Host.start_eq (hfiles.mono fun _ => IsLeftover.of_cons) h.work (h.program hresolve)

/-- **The compiler ends in both runs alike**, and what it leaves differs no more than what it was given; if it ended well,
it left the same declaration. -/
theorem Compiled.rebuild (h : Isolated host options name) (hfiles : SameBut (IsLeftover host options name []) files files')
    {start : Start} {completion : Completion} {left : FileSystem}
    (hcompiled : Compiled host options bundle files start completion left) :
    ∃ start' left', Compiled host options bundle files' start' completion left' ∧
      SameBut (IsLeftover host options name [unitFile]) left left' ∧
      (completion.succeeded = true → SameBut (IsLeftover host options name [rawDeclarationFile, unitFile]) left left') := by
  obtain @⟨given, left, program, inside, compiler, completion, hwrite, hresolve, hstart, hrun⟩ := hcompiled
  obtain ⟨given', hwrite', hgiven⟩ := h.write_unit hfiles hwrite
  obtain ⟨rfl, hinstalled⟩ := Host.installed_of_start hstart
  have halike := h.compiler hresolve hinstalled hgiven
  have hstart' := hstart
  rw [h.start_eq hgiven hresolve] at hstart'
  rcases hrun' : compiler (Path.location host.here options.workDirectory) (options.command.arguments unitFile) given' with
    ⟨completion', left'⟩
  rw [hrun, hrun'] at halike
  obtain ⟨hcompletion, heffect, hdeclaration⟩ := halike
  obtain rfl : completion' = completion := hcompletion
  -- what the compiler did not change differs as it did before
  have hleft : SameBut (IsLeftover host options name [unitFile]) left left' := by
    intro location
    rcases heffect location with hsame | ⟨hkept, hkept'⟩
    · exact .inl hsame
    · rw [hkept, hkept']
      exact hgiven location
  refine ⟨_, left', .intro hwrite' hresolve hstart' hrun', hleft, fun hsucceeded location => ?_⟩
  obtain ⟨content, hthere, hthere'⟩ := hdeclaration hsucceeded
  by_cases hraw : location = place host options rawDeclarationFile
  · rw [hraw]
    exact .inl (hthere.trans hthere'.symm)
  · exact (hleft location).imp_right fun hdiffer => ⟨.of_ne ⟨hdiffer.1, hraw⟩, hdiffer.2⟩

theorem Isolated.readText_raw (h : Isolated host options name) {left left' : FileSystem}
    (hleft : SameBut (IsLeftover host options name [rawDeclarationFile, unitFile]) left left') :
    left'.readText host.here (options.workPath rawDeclarationFile) =
      left.readText host.here (options.workPath rawDeclarationFile) :=
  (hleft.readText_eq (h.avoids_raw List.mem_cons_self)).symm

theorem Accepted.rebuild (h : Isolated host options name) (hfiles : SameBut (IsLeftover host options name []) files files')
    {start : Start} {declaration : Text} {left : FileSystem}
    (haccepted : Accepted host options bundle files start declaration left) :
    ∃ start' left', Accepted host options bundle files' start' declaration left' ∧
      SameBut (IsLeftover host options name [rawDeclarationFile, unitFile]) left left' := by
  obtain ⟨⟨completion, hcompiled, hsucceeded⟩, hread, hedit⟩ := haccepted
  obtain ⟨start', left', hcompiled', -, hleft⟩ := hcompiled.rebuild h hfiles
  rw [← h.readText_raw (hleft hsucceeded)] at hread
  exact ⟨start', left', ⟨⟨completion, hcompiled', hsucceeded⟩, hread, hedit⟩, hleft hsucceeded⟩

theorem Isolated.removals (h : Isolated host options name) {left left' bare clean : FileSystem}
    (hleft : SameBut (IsLeftover host options name [rawDeclarationFile, unitFile]) left left')
    (hunit : left.remove host.here (options.workPath unitFile) = .ok bare)
    (hraw : bare.remove host.here (options.workPath rawDeclarationFile) = .ok clean) :
    ∃ bare' clean', left'.remove host.here (options.workPath unitFile) = .ok bare' ∧
      bare'.remove host.here (options.workPath rawDeclarationFile) = .ok clean' ∧
      SameBut (IsLeftover host options name [rawDeclarationFile, unitFile]) clean clean' := by
  obtain ⟨bare', hunit', hbare⟩ :=
    hleft.remove_of_ok (h.avoids_unit (List.mem_cons_of_mem _ List.mem_cons_self)) hunit
  have hbare := hbare.mono fun _ => And.left
  obtain ⟨clean', hraw', hclean⟩ := hbare.remove_of_ok (h.avoids_raw List.mem_cons_self) hraw
  exact ⟨bare', clean', hunit', hraw', hclean.mono fun _ => And.left⟩

/-- **A course that is open to one run is open to the other.** -/
theorem Course.rebuild (h : Isolated host options bundle.name) (hname : isIdentifier bundle.name = true)
    (hfiles : SameBut (IsLeftover host options bundle.name []) files files') {outcome : Except EmitError Emitted}
    {after : FileSystem} {starts : List Start} (hcourse : Course host options bundle files outcome after starts) :
    ∃ after' starts', Course host options bundle files' outcome after' starts' := by
  have hslash : '/' ∉ declarationFile bundle.name := by
    have hslash : '/' ∉ bundle.name := not_mem_of_isIdentifier hname (by decide)
    simp [declarationFile, hslash]
  cases hcourse with
  | unitRefused hwrite =>
    have hwrite' := hfiles.write_of_error (h.way (by decide) []) hwrite
    exact ⟨_, _, .unitRefused hwrite'⟩
  | noProgram hwrite hresolve =>
    obtain ⟨done', hwrite', -⟩ := h.write_unit hfiles hwrite
    exact ⟨_, _, .noProgram hwrite' hresolve⟩
  | notStarted hwrite hresolve hstart =>
    obtain ⟨done', hwrite', hdone⟩ := h.write_unit hfiles hwrite
    rw [h.start_eq hdone hresolve] at hstart
    exact ⟨_, _, .notStarted hwrite' hresolve hstart⟩
  | compilerFailed hcompiled hfailed =>
    obtain ⟨start', left', hcompiled', -⟩ := hcompiled.rebuild h hfiles
    exact ⟨_, _, .compilerFailed hcompiled' hfailed⟩
  -- a compiler that ended well has declared something, and from here on both runs read the same
  | undeclared hcompiled hsucceeded hread =>
    obtain ⟨start', left', hcompiled', -, hleft⟩ := hcompiled.rebuild h hfiles
    rw [← h.readText_raw (hleft hsucceeded)] at hread
    exact ⟨_, _, .undeclared hcompiled' hsucceeded hread⟩
  | unreadable hcompiled hsucceeded hread hfault =>
    obtain ⟨start', left', hcompiled', -, hleft⟩ := hcompiled.rebuild h hfiles
    rw [← h.readText_raw (hleft hsucceeded)] at hread
    exact ⟨_, _, .unreadable hcompiled' hsucceeded hread hfault⟩
  | noHeader hcompiled hsucceeded hread hstrict hheader =>
    obtain ⟨start', left', hcompiled', -, hleft⟩ := hcompiled.rebuild h hfiles
    rw [← h.readText_raw (hleft hsucceeded)] at hread
    exact ⟨_, _, .noHeader hcompiled' hsucceeded hread hstrict hheader⟩
  | noExport hcompiled hsucceeded hread hstrict hheader hexport =>
    obtain ⟨start', left', hcompiled', -, hleft⟩ := hcompiled.rebuild h hfiles
    rw [← h.readText_raw (hleft hsucceeded)] at hread
    exact ⟨_, _, .noExport hcompiled' hsucceeded hread hstrict hheader hexport⟩
  | unitLost haccepted hremove =>
    obtain ⟨start', left', haccepted', hleft⟩ := haccepted.rebuild h hfiles
    have hremove' := hleft.remove_of_error (h.avoids_unit (List.mem_cons_of_mem _ List.mem_cons_self)) hremove
    exact ⟨_, _, .unitLost haccepted' hremove'⟩
  | unpublished haccepted hunit hraw hwrite =>
    obtain ⟨start', left', haccepted', hleft⟩ := haccepted.rebuild h hfiles
    obtain ⟨bare', clean', hunit', hraw', hclean⟩ := h.removals hleft hunit hraw
    have hwrite' := hclean.write_of_error (h.way hslash _) hwrite
    exact ⟨_, _, .unpublished haccepted' hunit' hraw' hwrite'⟩
  | published haccepted hunit hraw hwrite =>
    obtain ⟨start', left', haccepted', hleft⟩ := haccepted.rebuild h hfiles
    obtain ⟨bare', clean', hunit', hraw', hclean⟩ := h.removals hleft hunit hraw
    obtain ⟨done', hwrite', -⟩ := hclean.write_of_ok (h.way hslash _) hwrite
    exact ⟨_, _, .published haccepted' hunit' hraw' hwrite'⟩

/-! ## Generations -/

theorem get?_declaration_of_generate {layout : Layout} {world : World} {emitted : Emitted}
    (h : Run.outcome (generate host options name layout world) = .ok emitted) :
    (Run.final (generate host options name layout world)).files.get? (place host options (declarationFile name)) =
      some (.file (Text.utf8 emitted.edited.text)) := by
  rcases course_of_generate host options name layout world with
    ⟨error, -, houtcome, -⟩ | ⟨bundle, starts, hok, hcourse, -⟩
  · rw [houtcome] at h
    cases h
  · obtain ⟨rfl, hname⟩ := Sources.name_of_assemble hok
    rw [h] at hcourse
    cases hcourse with
    | published _ _ _ hwrite =>
      have hthere := (FileSystem.read_eq_ok_iff.1 (FileSystem.read_written hwrite)).2
      rwa [location_declarationFile hname] at hthere

/-- Two generations have the same outcome and, if it is a good one, leave the same declaration. -/
structure SameEnd (host : Host) (options : EmitOptions) (name : Text) (layout : Layout) (world world' : World) : Prop where
  outcome : Run.outcome (generate host options name layout world') = Run.outcome (generate host options name layout world)
  declaration : ∀ emitted, Run.outcome (generate host options name layout world) = .ok emitted →
    (Run.final (generate host options name layout world')).files.get? (place host options (declarationFile name)) =
      (Run.final (generate host options name layout world)).files.get? (place host options (declarationFile name))

theorem outcome_of_sameBut {layout : Layout} {world world' : World} (h : Isolated host options name)
    (hleaves : ∀ path ∈ layout.sourcePaths options.base, Path.Avoids (IsLeftover host options name []) host.here path)
    (hfiles : SameBut (IsLeftover host options name []) world.files world'.files) :
    Run.outcome (generate host options name layout world') = Run.outcome (generate host options name layout world) := by
  have hassemble : (options.sources host world.files).assemble name layout =
      (options.sources host world'.files).assemble name layout :=
    Sources.assemble_eq fun path hpath => hfiles.readText_eq (hleaves path hpath)
  rcases course_of_generate host options name layout world with
    ⟨error, herror, houtcome, -⟩ | ⟨bundle, starts, hok, hcourse, -⟩
  · rw [hassemble] at herror
    obtain ⟨log, hrun'⟩ := generate_of_error herror
    rw [hrun', houtcome]
    rfl
  · obtain ⟨rfl, hname⟩ := Sources.name_of_assemble hok
    obtain ⟨after', starts', hcourse'⟩ := hcourse.rebuild h hname hfiles
    rw [hassemble] at hok
    obtain ⟨log, hrun'⟩ := generate_of_ok hok
    rw [hrun']
    exact (@emit_of_course host options bundle { world' with log } _ _ _ hcourse').1

theorem sameEnd_of_sameBut {layout : Layout} {world world' : World} (h : Isolated host options name)
    (hleaves : ∀ path ∈ layout.sourcePaths options.base, Path.Avoids (IsLeftover host options name []) host.here path)
    (hfiles : SameBut (IsLeftover host options name []) world.files world'.files) :
    SameEnd host options name layout world world' := by
  have houtcome := outcome_of_sameBut h hleaves hfiles
  refine ⟨houtcome, fun emitted hemitted => ?_⟩
  -- what stands in the place of the declaration is known from the outcome
  rw [get?_declaration_of_generate hemitted, get?_declaration_of_generate (houtcome.trans hemitted)]

/-! ## A compiler that keeps the rules -/

/-- A declaration that can be published. -/
def publishable : Text :=
  "declare module p\nexport = p;".toList

/-- The files of a small package. -/
def freshFiles : FileSystem :=
  smallFiles [smallSource "a.ts" "x"]

/-- A compiler that leaves a declaration where it is started, and fails if it cannot. -/
def careful : Compiler :=
  fun directory _ files =>
    match files.write directory rawDeclarationFile (Text.utf8 publishable) with
    | .ok written => (⟨some 0, [], []⟩, written)
    | .error _ => (⟨some 1, [], []⟩, files)

theorem careful_of_ok {directory : Location} {arguments : List Text} {done : FileSystem}
    (h : files.write directory rawDeclarationFile (Text.utf8 publishable) = .ok done) :
    careful directory arguments files = (⟨some 0, [], []⟩, done) := by
  simp only [careful, h]

theorem careful_of_error {directory : Location} {arguments : List Text} {fault : FileFault}
    (h : files.write directory rawDeclarationFile (Text.utf8 publishable) = .error fault) :
    careful directory arguments files = (⟨some 1, [], []⟩, files) := by
  simp only [careful, h]

theorem location_raw (host : Host) (options : EmitOptions) :
    Path.location (Path.location host.here options.workDirectory) rawDeclarationFile =
      place host options rawDeclarationFile := rfl

theorem oblivious_careful (host : Host) (options : EmitOptions) (name : Text) (arguments : List Text) :
    Oblivious host options name (careful (Path.location host.here options.workDirectory) arguments) := by
  have hway : ∀ location ∈ Path.way (Path.location host.here options.workDirectory) rawDeclarationFile,
      ¬ IsLeftover host options name [unitFile] location := by
    intro location hlocation
    obtain rfl := List.mem_singleton.1 hlocation
    exact not_isLeftover_of_length (Nat.le_refl _)
  intro files files' hfiles
  cases hwrite : files.write (Path.location host.here options.workDirectory) rawDeclarationFile (Text.utf8 publishable) with
  | error fault =>
    rw [careful_of_error hwrite, careful_of_error (hfiles.write_of_error hway hwrite)]
    exact ⟨rfl, fun _ => .inr ⟨rfl, rfl⟩, fun hsucceeded => by cases hsucceeded⟩
  | ok done =>
    obtain ⟨done', hwrite', hdone⟩ := hfiles.write_of_ok hway hwrite
    rw [careful_of_ok hwrite, careful_of_ok hwrite']
    refine ⟨rfl, fun location => ?_, fun _ => ?_⟩
    · by_cases hraw : location = place host options rawDeclarationFile
      · exact .inl (hdone.get?_eq fun hplace => hplace.2 (by rw [location_raw]; exact hraw))
      · exact .inr ⟨FileSystem.get?_of_write hwrite hraw, FileSystem.get?_of_write hwrite' hraw⟩
    · exact ⟨_, (FileSystem.read_eq_ok_iff.1 (FileSystem.read_written hwrite)).2,
        (FileSystem.read_eq_ok_iff.1 (FileSystem.read_written hwrite')).2⟩

theorem tidy_careful (options : EmitOptions) (name : Text) : Tidy (hostWith careful) options name := by
  intro program compiler _ hinstalled files
  obtain rfl := Option.some.inj hinstalled
  cases hwrite : files.write (Path.location (hostWith careful).here options.workDirectory) rawDeclarationFile
      (Text.utf8 publishable) with
  | error fault =>
    rw [careful_of_error hwrite]
    exact .refl _ _
  | ok done =>
    rw [careful_of_ok hwrite]
    exact FileSystem.sameBut_of_write ⟨rawDeclarationFile, by simp [leftovers], List.not_mem_nil, rfl⟩ hwrite

/-- In the small host everything that is looked up stands around the leftovers. -/
theorem isolated_of_oblivious {compiler : Compiler}
    (h : Oblivious (hostWith compiler) (smallOptions true) ['p']
      (compiler [['w']] ((smallOptions true).command.arguments unitFile))) :
    Isolated (hostWith compiler) (smallOptions true) ['p'] := by
  refine ⟨⟨fun location hlocation => ?_, not_isLeftover_of_length (Nat.le_refl _)⟩, ?_, ?_⟩
  · obtain rfl := List.mem_singleton.1 hlocation
    exact not_isLeftover_of_length (Nat.le_refl 1)
  · intro program hresolve
    obtain rfl := Except.ok.inj hresolve
    refine ⟨fun location hlocation => ?_, not_isLeftover_of_length (Nat.le_refl 1)⟩
    have hroot : location = [] := by
      rcases List.mem_cons.1 hlocation with hroot | hlocation
      · exact hroot
      · exact List.mem_singleton.1 hlocation
    rw [hroot]
    exact not_isLeftover_of_length (Nat.zero_le 1)
  · intro program other _ hinstalled
    obtain rfl := Option.some.inj hinstalled
    exact h

theorem isolated_careful : Isolated (hostWith careful) (smallOptions true) ['p'] :=
  isolated_of_oblivious (oblivious_careful _ _ _ _)

/-- **A run is a first run, whatever leftovers it finds**; so another run gives the same again if the compiler leaves
nothing but such files. -/
theorem generate_rebuilds {layout : Layout} (h : Isolated host options name)
    (hleaves : ∀ path ∈ layout.sourcePaths options.base, Path.Avoids (IsLeftover host options name []) host.here path) :
    (∀ world world' : World, SameBut (IsLeftover host options name []) world.files world'.files →
      SameEnd host options name layout world world') ∧
    (Tidy host options name → ∀ world : World,
      SameEnd host options name layout world (Run.final (generate host options name layout world))) := by
  refine ⟨fun world world' hfiles => sameEnd_of_sameBut h hleaves hfiles, fun htidy world => ?_⟩
  exact sameEnd_of_sameBut h hleaves (generate_leaves layout htidy world)

/-- A declaration that an earlier run left makes no difference, and neither does the run itself. -/
theorem generate_rebuilds_careful :
    Isolated (hostWith careful) (smallOptions true) ['p'] ∧
      (∀ path ∈ (Layout.source ['a'] ['a'] .empty).sourcePaths ['.'],
        Path.Avoids (IsLeftover (hostWith careful) (smallOptions true) ['p'] []) [['w']] path) ∧
      SameBut (IsLeftover (hostWith careful) (smallOptions true) ['p'] []) freshFiles
        (freshFiles.set [rawDeclarationFile, ['w']] (.file [])) ∧
      SameEnd (hostWith careful) (smallOptions true) ['p'] (.source ['a'] ['a'] .empty) (World.of freshFiles)
        (World.of (freshFiles.set [rawDeclarationFile, ['w']] (.file []))) ∧
      Tidy (hostWith careful) (smallOptions true) ['p'] ∧
      SameEnd (hostWith careful) (smallOptions true) ['p'] (.source ['a'] ['a'] .empty) (World.of freshFiles)
        (Run.final
          (generate (hostWith careful) (smallOptions true) ['p'] (.source ['a'] ['a'] .empty) (World.of freshFiles))) := by
  have hleaves : ∀ path ∈ (Layout.source ['a'] ['a'] .empty).sourcePaths ['.'],
      Path.Avoids (IsLeftover (hostWith careful) (smallOptions true) ['p'] []) [['w']] path := by
    intro path hpath
    obtain rfl := List.mem_singleton.1 hpath
    exact ⟨by decide, by decide⟩
  have hfiles : SameBut (IsLeftover (hostWith careful) (smallOptions true) ['p'] []) freshFiles
      (freshFiles.set [rawDeclarationFile, ['w']] (.file [])) :=
    FileSystem.sameBut_set (by decide) (by decide) []
  obtain ⟨hsame, hagain⟩ := @generate_rebuilds (hostWith careful) (smallOptions true) ['p'] _ isolated_careful hleaves
  exact ⟨isolated_careful, hleaves, hfiles, hsame (World.of _) (World.of _) hfiles, tidy_careful _ _,
    hagain (tidy_careful _ _) _⟩

/-- A careful compiler that leaves a note behind as well, and fails if it finds one. -/
def noting : Compiler :=
  fun directory arguments files =>
    match files.get? ("note".toList :: directory) with
    | some _ => (⟨some 1, [], []⟩, files)
    | none =>
      ((careful directory arguments files).1,
        (careful directory arguments files).2.set ("note".toList :: directory) (.file []))

theorem noting_of_some {directory : Location} {arguments : List Text} {entry : FileEntry}
    (h : files.get? ("note".toList :: directory) = some entry) :
    noting directory arguments files = (⟨some 1, [], []⟩, files) := by
  rw [noting, h]

theorem noting_of_none {directory : Location} {arguments : List Text}
    (h : files.get? ("note".toList :: directory) = none) :
    noting directory arguments files = ((careful directory arguments files).1,
      (careful directory arguments files).2.set ("note".toList :: directory) (.file [])) := by
  rw [noting, h]

theorem oblivious_noting :
    Oblivious (hostWith noting) (smallOptions true) ['p']
      (noting [['w']] ((smallOptions true).command.arguments unitFile)) := by
  have hnote : ¬ IsLeftover (hostWith noting) (smallOptions true) ['p'] [unitFile] ["note".toList, ['w']] := by
    decide
  have hraw : place (hostWith noting) (smallOptions true) rawDeclarationFile ≠ ["note".toList, ['w']] := by
    decide
  intro files files' hfiles
  have hsame := hfiles.get?_eq hnote
  obtain ⟨hcompletion, heffect, hdeclaration⟩ := oblivious_careful (hostWith noting) (smallOptions true)
    ['p'] ((smallOptions true).command.arguments unitFile) hfiles
  cases hget : files.get? ["note".toList, ['w']] with
  | some entry =>
    rw [noting_of_some hget, noting_of_some (hsame.symm.trans hget)]
    exact ⟨rfl, fun _ => .inr ⟨rfl, rfl⟩, fun hsucceeded => by cases hsucceeded⟩
  | none =>
    rw [noting_of_none hget, noting_of_none (hsame.symm.trans hget)]
    refine ⟨hcompletion, fun location => ?_, fun hsucceeded => ?_⟩
    · by_cases hl : location = ["note".toList, ['w']]
      · rw [hl, FileSystem.get?_set_self (List.cons_ne_nil _ _), FileSystem.get?_set_self (List.cons_ne_nil _ _)]
        exact .inl rfl
      · rw [FileSystem.get?_set_of_ne hl, FileSystem.get?_set_of_ne hl]
        exact heffect location
    · rw [FileSystem.get?_set_of_ne hraw, FileSystem.get?_set_of_ne hraw]
      exact hdeclaration hsucceeded

/-- **A leftover can be told by a source whose path leads through it**, although it is no source itself: without it the
source is missing, with it the way there is no directory.  And a run can be told by what else the compiler leaves. -/
theorem generate_sees_leftover :
    (Isolated (hostWith careful) (smallOptions true) ['p'] ∧
      (∀ path ∈ (Layout.source ['a'] "index.d.ts/x".toList .empty).sourcePaths ['.'],
        ¬ IsLeftover (hostWith careful) (smallOptions true) ['p'] [] (Path.location [['w']] path)) ∧
      SameBut (IsLeftover (hostWith careful) (smallOptions true) ['p'] []) freshFiles
        (freshFiles.set [rawDeclarationFile, ['w']] (.file [])) ∧
      Run.outcome (generate (hostWith careful) (smallOptions true) ['p']
          (.source ['a'] "index.d.ts/x".toList .empty) (World.of freshFiles)) =
        .error (.build (.missing "./index.d.ts/x.ts".toList)) ∧
      Run.outcome (generate (hostWith careful) (smallOptions true) ['p']
          (.source ['a'] "index.d.ts/x".toList .empty)
          (World.of (freshFiles.set [rawDeclarationFile, ['w']] (.file [])))) =
        .error (.build (.unreadable "./index.d.ts/x.ts".toList .notDirectory))) ∧
    (Isolated (hostWith noting) (smallOptions true) ['p'] ∧
      ∃ emitted after, generate (hostWith noting) (smallOptions true) ['p'] (.source ['a'] ['a'] .empty)
          (World.of freshFiles) = .ok emitted after ∧
        Run.outcome (generate (hostWith noting) (smallOptions true) ['p'] (.source ['a'] ['a'] .empty) after) =
          .error (.compilerFailed (some 1) [] [])) := by
  refine ⟨⟨isolated_careful, ?_,
    FileSystem.sameBut_set (by decide) (by decide) [], rfl, rfl⟩,
    isolated_of_oblivious oblivious_noting, _, _, rfl, rfl⟩
  intro path hpath
  obtain rfl := List.mem_singleton.1 hpath
  decide

end Emission
end DtsBundle
