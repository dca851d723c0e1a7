import DtsBundle.Proofs.Assembly.Defects
import DtsBundle.Proofs.Layout.Leaves
/-!
# What a build reports

A build looks at the package's name, at the names of the layout and at the sources, one after the other, and stops at the
first thing that is wrong.  It gives a package just when nothing is wrong at all, and else the error of the first defect.
With a name that is no identifier no source is looked at; else **the sources reported as read are the leaves of the layout
in order, up to the first that cannot be read and with it** (`build_reports`), each under its names behind the package's.

For the order only the traversal of one forest matters: what a group reports is what its members do, and the rest is
reached just when all of them could be read.
-/
namespace DtsBundle

/-- Whether an event reports that a source is read. -/
def Event.isReading : Event → Bool
  | reading .. => true
  | _ => false

namespace Sources

open Layout (Leaf)

variable {sources : Sources} {name : Text} {layout : Layout} {leaves more attempted : List Leaf}

/-- The file of a leaf can be read as text. -/
def Readable (sources : Sources) (leaf : Leaf) : Prop :=
  ∃ text, sources.files.readText sources.here (leaf.file sources.base) = .ok text

/-- The report that a leaf is read. -/
def reading (sources : Sources) (package : Text) (leaf : Leaf) : Event :=
  .reading (leaf.file sources.base) (leaf.qualified package)

/-- All leaves if each of them can be read, or else those up to the first that cannot, and that one. -/
inductive Attempted (sources : Sources) : List Leaf → List Leaf → Prop
  | whole {leaves : List Leaf} (h : ∀ leaf ∈ leaves, sources.Readable leaf) : Attempted sources leaves leaves
  | part {before after : List Leaf} {leaf : Leaf} (hbefore : ∀ other ∈ before, sources.Readable other)
    (hleaf : ¬ sources.Readable leaf) : Attempted sources (before ++ leaf :: after) (before ++ [leaf])

/-! ## One list of leaves behind another -/

theorem Attempted.eq_of_readable (hleaves : ∀ leaf ∈ leaves, sources.Readable leaf)
    (h : Attempted sources leaves attempted) : attempted = leaves := by
  cases h with
  | whole hall => rfl
  | part hbefore hleaf => exact absurd (hleaves _ (List.mem_append_right _ List.mem_cons_self)) hleaf

theorem Attempted.append_of_readable (hleaves : ∀ leaf ∈ leaves, sources.Readable leaf)
    (h : Attempted sources more attempted) : Attempted sources (leaves ++ more) (leaves ++ attempted) := by
  cases h with
  | whole hmore => exact .whole (List.forall_mem_append.2 ⟨hleaves, hmore⟩)
  | part hbefore hleaf =>
    rw [← List.append_assoc, ← List.append_assoc]
    exact .part (List.forall_mem_append.2 ⟨hleaves, hbefore⟩) hleaf

theorem Attempted.append_of_not_readable (hleaves : ¬ ∀ leaf ∈ leaves, sources.Readable leaf)
    (h : Attempted sources leaves attempted) : Attempted sources (leaves ++ more) attempted := by
  cases h with
  | whole hall => exact absurd hall hleaves
  | part hbefore hleaf =>
    rw [List.append_assoc, List.cons_append]
    exact .part hbefore hleaf

theorem Attempted.inside (group : Text) (h : Attempted sources leaves attempted) :
    Attempted sources (leaves.map (.inside group)) (attempted.map (.inside group)) := by
  -- a leaf has the same file inside a group
  cases h with
  | whole hall => exact .whole (List.forall_mem_map.2 hall)
  | part hbefore hleaf =>
    rw [List.map_append, List.map_append, List.map_cons, List.map_singleton]
    exact .part (List.forall_mem_map.2 hbefore) hleaf

theorem map_reading_inside (group : Text) (leaves : List Leaf) :
    (leaves.map (.inside group)).map (sources.reading name) = leaves.map (sources.reading (name ++ '.' :: group)) := by
  rw [List.map_map]
  refine List.map_congr_left fun leaf _ => ?_
  simp only [Function.comp_apply, reading, Leaf.qualified_inside]
  rfl

/-! ## One forest -/

theorem exists_forest_iff_readable {scope : Text} :
    (∃ children, (sources.forest scope layout).2 = .ok children) ↔ ∀ leaf ∈ layout.leaves, sources.Readable leaf := by
  rw [exists_forest_iff, ← Layout.map_file_leaves, List.forall_mem_map]
  rfl

/-- A source is reported before it is looked at, and what is behind it only when it could be read. -/
theorem filter_isReading_source (scope name stem : Text) (rest : Layout) :
    (sources.forest scope (.source name stem rest)).1.filter Event.isReading =
      sources.reading scope ⟨[name], stem⟩ ::
        match sources.files.readText sources.here (Layout.sourcePath sources.base stem) with
        | .error _ => []
        | .ok _ => (sources.forest scope rest).1.filter Event.isReading := by
  rw [reading, Leaf.qualified_singleton, forest]
  cases hread : sources.files.readText sources.here (Layout.sourcePath sources.base stem) with
  | error fault =>
    simp only [readUnit, hread]
    rfl
  | ok text =>
    simp only [readUnit, hread]
    rfl

/-- What is behind a group is reported when all of its members could be read. -/
theorem filter_isReading_group (scope name : Text) (members rest : Layout) :
    (sources.forest scope (.group name members rest)).1.filter Event.isReading =
      (sources.forest (scope ++ '.' :: name) members).1.filter Event.isReading ++
        match (sources.forest (scope ++ '.' :: name) members).2 with
        | .error _ => []
        | .ok _ => (sources.forest scope rest).1.filter Event.isReading := by
  rw [forest]
  rcases sources.forest (scope ++ '.' :: name) members with ⟨events, result⟩
  cases result with
  | error error => exact (List.append_nil _).symm
  | ok inside => exact List.filter_append _ _

/-- **A forest reports its leaves in order**, up to the first that cannot be read. -/
theorem exists_attempted (sources : Sources) (scope : Text) (layout : Layout) :
    ∃ attempted, Attempted sources layout.leaves attempted ∧
      (sources.forest scope layout).1.filter Event.isReading = attempted.map (sources.reading scope) := by
  induction layout generalizing scope with
  | empty => exact ⟨[], .whole fun _ hm => absurd hm List.not_mem_nil, rfl⟩
  | source name stem rest ih =>
    rw [filter_isReading_source]
    cases hread : sources.files.readText sources.here (Layout.sourcePath sources.base stem) with
    | error fault =>
      have hleaf : ¬ sources.Readable ⟨[name], stem⟩ := by
        rintro ⟨text, htext⟩
        rw [Leaf.file, hread] at htext
        cases htext
      have hnone : ∀ other ∈ ([] : List Leaf), sources.Readable other := fun _ hm => absurd hm List.not_mem_nil
      exact ⟨[⟨[name], stem⟩], .part hnone hleaf, rfl⟩
    | ok text =>
      obtain ⟨attempted, hattempted, hevents⟩ := ih scope
      have hleaf : ∀ other ∈ [(⟨[name], stem⟩ : Leaf)], sources.Readable other := by
        intro other hm
        obtain rfl := List.mem_singleton.1 hm
        exact ⟨text, hread⟩
      exact ⟨_, hattempted.append_of_readable hleaf, congrArg (_ :: ·) hevents⟩
  | group name members rest ihMembers ihRest =>
    rw [filter_isReading_group]
    obtain ⟨inside, hinside, hevents⟩ := ihMembers (scope ++ '.' :: name)
    rw [hevents, ← map_reading_inside]
    have hmembers : (∃ children, (sources.forest (scope ++ '.' :: name) members).2 = .ok children) ↔
        ∀ leaf ∈ members.leaves.map (.inside name), sources.Readable leaf := by
      rw [List.forall_mem_map]
      exact exists_forest_iff_readable
    cases hforest : (sources.forest (scope ++ '.' :: name) members).2 with
    | error error =>
      have hnot : ¬ ∀ leaf ∈ members.leaves.map (.inside name), sources.Readable leaf := by
        rw [← hmembers, hforest]
        rintro ⟨children, hchildren⟩
        cases hchildren
      exact ⟨_, (hinside.inside name).append_of_not_readable hnot, List.append_nil _⟩
    | ok children =>
      have hreadable := hmembers.1 ⟨children, hforest⟩
      obtain ⟨attempted, hattempted, hbehind⟩ := ihRest scope
      refine ⟨_, hattempted.append_of_readable hreadable, ?_⟩
      rw [List.map_append, ← hbehind, (hinside.inside name).eq_of_readable hreadable]

/-! ## The build -/

/-- The package and every module of it, at any depth, have identifiers for names. -/
def Named (name : Text) (layout : Layout) : Prop :=
  isIdentifier name = true ∧ ∀ key ∈ layout.names, isIdentifier key = true

/-- Nothing is wrong with a package. -/
structure Sound (sources : Sources) (name : Text) (layout : Layout) : Prop where
  named : Named name layout
  readable : ∀ leaf ∈ layout.leaves, sources.Readable leaf

theorem exists_build_iff : (∃ built, (sources.build name layout).2 = .ok built) ↔ Sound sources name layout := by
  simp only [build_eq_ok_iff, Layout.badName?_eq_none_iff]
  constructor
  · rintro ⟨built, hname, hkeys, children, hforest, -⟩
    exact ⟨⟨hname, hkeys⟩, exists_forest_iff_readable.1 ⟨children, hforest⟩⟩
  · rintro ⟨⟨hname, hkeys⟩, hreadable⟩
    obtain ⟨children, hforest⟩ := exists_forest_iff_readable.2 hreadable
    exact ⟨_, hname, hkeys, children, hforest, rfl⟩

theorem build_of_not_named (h : ¬ Named name layout) (files : FileSystem) :
    { sources with files }.build name layout = ([], (sources.build name layout).2) := by
  unfold build
  cases hname : isIdentifier name with
  | false => rfl
  | true =>
    cases hbad : layout.badName? with
    | some bad => rfl
    | none => exact absurd ⟨hname, Layout.badName?_eq_none_iff.1 hbad⟩ h

theorem filter_isReading_build (h : Named name layout) :
    (sources.build name layout).1.filter Event.isReading = (sources.forest name layout).1.filter Event.isReading := by
  unfold build
  rw [h.1, Layout.badName?_eq_none_iff.2 h.2]
  rcases sources.forest name layout with ⟨events, result⟩
  cases result with
  | error error => rfl
  | ok children =>
    have hbuilt : [Event.built name children.breadth].filter Event.isReading = [] := rfl
    simp only [Bool.not_true, Bool.false_eq_true, if_false, List.filter_append, hbuilt, List.append_nil]

/-- **A build ends well just when nothing is wrong, and else with its first defect.**  With a name that is no identifier it
looks at no file and reports nothing; else it reports the leaves in order, up to the first that cannot be read. -/
theorem build_reports (sources : Sources) (name : Text) (layout : Layout) :
    ((∃ built, (sources.build name layout).2 = .ok built) ↔ Sound sources name layout) ∧
      (∀ error, (sources.build name layout).2 = .error error ↔ Defect sources name layout error) ∧
      (¬ Named name layout →
        ∀ files, { sources with files }.build name layout = ([], (sources.build name layout).2)) ∧
      (Named name layout → ∃ attempted, Attempted sources layout.leaves attempted ∧
        (sources.build name layout).1.filter Event.isReading = attempted.map (sources.reading name)) := by
  refine ⟨exists_build_iff, fun error => ?_, build_of_not_named, fun hnamed => ?_⟩
  · rw [← assemble_eq_error_iff_build, assemble_eq_error_iff]
  · rw [filter_isReading_build hnamed]
    exact exists_attempted sources name layout

end Sources
end DtsBundle
