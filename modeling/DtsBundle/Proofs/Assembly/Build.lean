import DtsBundle.Assembly
import DtsBundle.Proofs.Bundle.Percolation
/-!
# What is assembled

A package is built just when its name and every name of its layout are identifiers and its sources give a forest
(`build_eq_ok_iff`), and what is assembled is the package that was built, percolated (`assemble_eq_ok_iff`).  **Sources
that can all be read give a forest** with their units in the layout's order and with the layout's names
(`forest_of_readable`), and nothing else of the files makes a difference (`assemble_eq`).
-/
namespace DtsBundle

namespace Layout

/-- Every name of a layout, at any depth, in order, that of a group in front of those inside it. -/
def names : Layout → List Text
  | empty => []
  | source name _ rest => name :: rest.names
  | group name members rest => name :: (members.names ++ rest.names)

theorem badName?_eq_none_iff {layout : Layout} :
    layout.badName? = none ↔ ∀ name ∈ layout.names, isIdentifier name = true := by
  induction layout with
  | empty => simp [badName?, names]
  | source name stem rest ih =>
    rw [badName?, names, List.forall_mem_cons, ← ih]
    split
    · rename_i hname
      rw [hname, eq_self, true_and]
    · rename_i hname
      simp [hname]
  | group name members rest ihMembers ihRest =>
    rw [badName?, names, List.forall_mem_cons, List.forall_mem_append, ← ihMembers, ← ihRest]
    split
    · rename_i hname
      rw [hname, eq_self, true_and]
      cases members.badName? <;> simp
    · rename_i hname
      simp [hname]

end Layout

namespace Sources

theorem readUnit_of_ok {sources : Sources} {path text : Text} (h : sources.files.readText sources.here path = .ok text) :
    (sources.readUnit path).2 = .ok (SourceUnit.parseWith sources.patterns text) := by
  rw [readUnit, h]

theorem readUnit_of_error {sources : Sources} {path : Text} {fault : FileFault}
    (h : sources.files.readText sources.here path = .error fault) :
    (sources.readUnit path).2 = .error (.ofSource path fault) := by
  rw [readUnit, h]

theorem forest_source (sources : Sources) (scope name stem : Text) (rest : Layout) :
    (sources.forest scope (.source name stem rest)).2 =
      match (sources.readUnit (Layout.sourcePath sources.base stem)).2 with
      | .error e => .error e
      | .ok unit => (sources.forest scope rest).2.map (.node name (.leaf unit .nil)) := by
  rw [forest]
  rcases sources.readUnit (Layout.sourcePath sources.base stem) with ⟨events, result⟩
  cases result <;> rfl

theorem forest_group (sources : Sources) (scope name : Text) (members rest : Layout) :
    (sources.forest scope (.group name members rest)).2 =
      match (sources.forest (scope ++ '.' :: name) members).2 with
      | .error e => .error e
      | .ok inside => (sources.forest scope rest).2.map (.node name inside) := by
  rw [forest]
  rcases sources.forest (scope ++ '.' :: name) members with ⟨events, result⟩
  cases result <;> rfl

/-- **Sources that can be read give a forest**: their units in order, under the names of the layout. -/
theorem forest_of_readable (sources : Sources) {layout : Layout} {texts : List Text} (scope : Text)
    (h : (layout.sourcePaths sources.base).map (sources.files.readText sources.here) = texts.map .ok) :
    ∃ children, (sources.forest scope layout).2 = .ok children ∧
      children.units = texts.map (SourceUnit.parseWith sources.patterns) ∧ children.names = layout.names := by
  induction layout generalizing scope texts with
  | empty =>
    obtain rfl : texts = [] := by simpa [Layout.sourcePaths] using h.symm
    exact ⟨.nil, rfl, rfl, rfl⟩
  | source name stem rest ih =>
    rw [Layout.sourcePaths, List.map_cons] at h
    obtain ⟨text, more, rfl, htext, hmore⟩ := List.map_eq_cons_iff.1 h.symm
    obtain ⟨children, hrest, hunits, hnames⟩ := ih scope hmore.symm
    refine ⟨.node name (.leaf (SourceUnit.parseWith sources.patterns text) .nil) children, ?_, ?_, ?_⟩
    · rw [forest_source, readUnit_of_ok htext.symm, hrest]
      rfl
    · simp [Forest.units, hunits]
    · simp [Forest.names, Layout.names, hnames]
  | group name members rest ihMembers ihRest =>
    rw [Layout.sourcePaths, List.map_append] at h
    obtain ⟨first, second, rfl, hfirst, hsecond⟩ := List.map_eq_append_iff.1 h.symm
    obtain ⟨inside, hinside, hunits, hnames⟩ := ihMembers (scope ++ '.' :: name) hfirst.symm
    obtain ⟨children, hrest, hunits', hnames'⟩ := ihRest scope hsecond.symm
    refine ⟨.node name inside children, ?_, ?_, ?_⟩
    · rw [forest_group, hinside, hrest]
      rfl
    · simp [Forest.units, hunits, hunits']
    · simp [Forest.names, Layout.names, hnames, hnames']

theorem build_eq_ok_iff {sources : Sources} {name : Text} {layout : Layout} {built : Bundle} :
    (sources.build name layout).2 = .ok built ↔
      isIdentifier name = true ∧ layout.badName? = none ∧
        ∃ children, (sources.forest name layout).2 = .ok children ∧ built = ⟨name, [], [], children⟩ := by
  rw [build]
  cases hname : isIdentifier name with
  | false => simp
  | true =>
    simp only [Bool.not_true, Bool.false_eq_true, if_false, true_and]
    cases hbad : layout.badName? with
    | some bad => simp
    | none =>
      rcases hforest : sources.forest name layout with ⟨events, result⟩
      cases result with
      | error e => simp
      | ok children => simp [eq_comm]

theorem assemble_eq_ok_iff {sources : Sources} {name : Text} {layout : Layout} {bundle : Bundle} :
    (sources.assemble name layout).2 = .ok bundle ↔
      ∃ built, (sources.build name layout).2 = .ok built ∧ bundle = built.percolate.1 := by
  rw [assemble]
  rcases hbuild : sources.build name layout with ⟨events, result⟩
  cases result with
  | error e => simp
  | ok built => simp [eq_comm]

theorem name_of_assemble {sources : Sources} {name : Text} {layout : Layout} {bundle : Bundle}
    (h : (sources.assemble name layout).2 = .ok bundle) : bundle.name = name ∧ isIdentifier name = true := by
  obtain ⟨built, hbuilt, rfl⟩ := assemble_eq_ok_iff.1 h
  obtain ⟨hname, -, children, -, rfl⟩ := build_eq_ok_iff.1 hbuilt
  exact ⟨rfl, hname⟩

/-! ## What an assembly depends on -/

variable {sources : Sources} {other : FileSystem} {name : Text} {layout : Layout}

theorem readUnit_eq {path : Text}
    (h : sources.files.readText sources.here path = other.readText sources.here path) :
    sources.readUnit path = { sources with files := other }.readUnit path := by
  rw [readUnit, readUnit, h]

theorem forest_eq {scope : Text} (h : ∀ path ∈ layout.sourcePaths sources.base,
    sources.files.readText sources.here path = other.readText sources.here path) :
    sources.forest scope layout = { sources with files := other }.forest scope layout := by
  induction layout generalizing scope with
  | empty => rfl
  | source name stem rest ih =>
    rw [Layout.sourcePaths, List.forall_mem_cons] at h
    rw [forest, forest, readUnit_eq h.1, ih h.2]
  | group name members rest ihMembers ihRest =>
    rw [Layout.sourcePaths, List.forall_mem_append] at h
    rw [forest, forest, ihMembers h.1, ihRest h.2]

/-- **What is assembled depends on what is read of the sources, and on nothing else.** -/
theorem assemble_eq (h : ∀ path ∈ layout.sourcePaths sources.base,
    sources.files.readText sources.here path = other.readText sources.here path) :
    sources.assemble name layout = { sources with files := other }.assemble name layout := by
  rw [assemble, assemble, build, build, forest_eq h]

end Sources
end DtsBundle
