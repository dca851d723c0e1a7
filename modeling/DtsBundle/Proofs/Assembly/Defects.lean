import DtsBundle.Proofs.Assembly.Build
/-!
# Why a package is not assembled

A package can be wrong in its name, in the names of its layout and in its sources, and each of them in many places.
`Defect` says for every error what it is about, and that nothing is wrong in front of it: the package's name comes
before the names of the layout, these before the sources, and names and sources go in the order of the layout, however
deep they stand.  **An assembly fails with an error just when that is its first defect** (`assemble_eq_error_iff`), so
it fails just when there is a defect anywhere (`flawed_iff`).
-/
namespace DtsBundle

namespace Layout

theorem badName?_eq_find? (layout : Layout) : layout.badName? = layout.names.find? (!isIdentifier ·) := by
  induction layout with
  | empty => rfl
  | source name stem rest ih =>
    rw [badName?, names, List.find?_cons, ih]
    cases isIdentifier name <;> rfl
  | group name members rest ihMembers ihRest =>
    rw [badName?, names, List.find?_cons, List.find?_append, ihMembers, ihRest]
    cases isIdentifier name with
    | false => rfl
    | true => exact Option.orElse_eq_or

theorem badName?_eq_some_iff {layout : Layout} {bad : Text} :
    layout.badName? = some bad ↔ isIdentifier bad = false ∧
      ∃ before after, layout.names = before ++ bad :: after ∧ ∀ name ∈ before, isIdentifier name = true := by
  simp only [badName?_eq_find?, List.find?_eq_some_iff_append, Bool.not_eq_true', Bool.not_not]

end Layout

namespace Sources

variable {sources : Sources} {name : Text} {layout : Layout}

/-- What the refusal to read a source is reported as: a source that is not there, or one that cannot be read. -/
inductive Refused (sources : Sources) (path : Text) : BuildError → Prop
  | missing (h : sources.files.readText sources.here path = .error .notFound) : Refused sources path (.missing path)
  | unreadable {fault : FileFault} (h : sources.files.readText sources.here path = .error fault)
    (hfault : fault ≠ .notFound) : Refused sources path (.unreadable path fault)

/-- The first defect of a package, and the error it is reported as. -/
inductive Defect (sources : Sources) (name : Text) (layout : Layout) : BuildError → Prop
  | package (hname : isIdentifier name = false) : Defect sources name layout (.badPackage name)
  | module {before after : List Text} {key : Text} (hname : isIdentifier name = true)
    (hsplit : layout.names = before ++ key :: after) (hbefore : ∀ other ∈ before, isIdentifier other = true)
    (hkey : isIdentifier key = false) : Defect sources name layout (.badModule key)
  | source {before after : List Text} {path : Text} {error : BuildError} (hname : isIdentifier name = true)
    (hkeys : ∀ key ∈ layout.names, isIdentifier key = true)
    (hsplit : layout.sourcePaths sources.base = before ++ path :: after)
    (hbefore : ∀ other ∈ before, ∃ text, sources.files.readText sources.here other = .ok text)
    (hrefused : Refused sources path error) : Defect sources name layout error

/-- Something is wrong with a package, wherever and whatever else is. -/
def Flawed (sources : Sources) (name : Text) (layout : Layout) : Prop :=
  isIdentifier name = false ∨ (∃ key ∈ layout.names, isIdentifier key = false) ∨
    ∃ path ∈ layout.sourcePaths sources.base, ∃ fault, sources.files.readText sources.here path = .error fault

/-! ## One source -/

/-- The error of a source, if it cannot be read. -/
def refusal? (sources : Sources) (path : Text) : Option BuildError :=
  match sources.files.readText sources.here path with
  | .error fault => some (.ofSource path fault)
  | .ok _ => none

theorem Refused.fault {path : Text} {error : BuildError} (h : Refused sources path error) :
    ∃ fault, sources.files.readText sources.here path = .error fault := by
  cases h with
  | missing hread => exact ⟨_, hread⟩
  | unreadable hread => exact ⟨_, hread⟩

theorem refusal?_eq_none_iff {path : Text} :
    sources.refusal? path = none ↔ ∃ text, sources.files.readText sources.here path = .ok text := by
  rw [refusal?]
  cases sources.files.readText sources.here path <;> simp

theorem refusal?_eq_some_iff {path : Text} {error : BuildError} :
    sources.refusal? path = some error ↔ Refused sources path error := by
  constructor
  · intro h
    rw [refusal?] at h
    split at h
    · rename_i fault hread
      obtain rfl := Option.some.inj h
      by_cases hfault : fault = .notFound
      · subst hfault
        exact .missing hread
      · have hsource : BuildError.ofSource path fault = .unreadable path fault := by
          cases fault with
          | notFound => exact absurd rfl hfault
          | _ => rfl
        rw [hsource]
        exact .unreadable hread hfault
    · cases h
  · rintro (h | ⟨h, hfault⟩)
    · rw [refusal?, h]
      rfl
    · rw [refusal?, h]
      rename_i fault
      cases fault with
      | notFound => exact absurd rfl hfault
      | _ => rfl

/-! ## All sources -/

theorem map_eq_error_iff {α β : Type} {result : Except BuildError α} {f : α → β} {error : BuildError} :
    result.map f = .error error ↔ result = .error error := by
  cases result <;> simp [Except.map]

/-- **A forest is refused for the first source that cannot be read.** -/
theorem forest_eq_error_iff {scope : Text} {error : BuildError} :
    (sources.forest scope layout).2 = .error error ↔
      (layout.sourcePaths sources.base).findSome? sources.refusal? = some error := by
  induction layout generalizing scope error with
  | empty => simp [forest, Layout.sourcePaths]
  | source name stem rest ih =>
    rw [forest_source, Layout.sourcePaths, List.findSome?_cons, refusal?]
    cases hread : sources.files.readText sources.here (Layout.sourcePath sources.base stem) with
    | error fault => simp [readUnit_of_error hread]
    | ok text => simp only [readUnit_of_ok hread, map_eq_error_iff, ih]
  | group name members rest ihMembers ihRest =>
    rw [forest_group, Layout.sourcePaths, List.findSome?_append]
    cases hinside : (sources.forest (scope ++ '.' :: name) members).2 with
    | error e => simp [ihMembers.1 hinside]
    | ok inside =>
      have hnone : (members.sourcePaths sources.base).findSome? sources.refusal? = none := by
        cases hfirst : (members.sourcePaths sources.base).findSome? sources.refusal? with
        | none => rfl
        | some e =>
          rw [ihMembers.2 hfirst] at hinside
          cases hinside
      rw [hnone, Option.none_or]
      simp only [map_eq_error_iff, ihRest]

/-- **A forest comes of sources that can all be read**, and of no others. -/
theorem exists_forest_iff {scope : Text} :
    (∃ children, (sources.forest scope layout).2 = .ok children) ↔
      ∀ path ∈ layout.sourcePaths sources.base, ∃ text, sources.files.readText sources.here path = .ok text := by
  have hnone : (∀ path ∈ layout.sourcePaths sources.base, ∃ text, sources.files.readText sources.here path = .ok text) ↔
      (layout.sourcePaths sources.base).findSome? sources.refusal? = none := by
    simp only [List.findSome?_eq_none_iff, refusal?_eq_none_iff]
  rw [hnone, Option.eq_none_iff_forall_ne_some]
  cases hforest : (sources.forest scope layout).2 with
  | error error => simp [forest_eq_error_iff.1 hforest]
  | ok children =>
    refine ⟨fun _ error herror => ?_, fun _ => ⟨children, rfl⟩⟩
    rw [forest_eq_error_iff.2 herror] at hforest
    cases hforest

/-! ## The package -/

theorem assemble_eq_error_iff_build {error : BuildError} :
    (sources.assemble name layout).2 = .error error ↔ (sources.build name layout).2 = .error error := by
  rw [assemble]
  rcases sources.build name layout with ⟨events, result⟩
  cases result <;> simp

theorem build_eq_error_iff {error : BuildError} :
    (sources.build name layout).2 = .error error ↔
      (isIdentifier name = false ∧ error = .badPackage name) ∨
      isIdentifier name = true ∧ ((∃ bad, layout.badName? = some bad ∧ error = .badModule bad) ∨
        layout.badName? = none ∧ (sources.forest name layout).2 = .error error) := by
  rw [build]
  cases hname : isIdentifier name with
  | false => simp [eq_comm]
  | true =>
    cases hbad : layout.badName? with
    | some bad => simp [eq_comm]
    | none =>
      rcases hforest : sources.forest name layout with ⟨events, result⟩
      cases result <;> simp

/-- **An assembly fails with the error of the first defect**, and with no other. -/
theorem assemble_eq_error_iff {error : BuildError} :
    (sources.assemble name layout).2 = .error error ↔ Defect sources name layout error := by
  rw [assemble_eq_error_iff_build, build_eq_error_iff]
  constructor
  · rintro (⟨hname, rfl⟩ | ⟨hname, ⟨bad, hbad, rfl⟩ | ⟨hkeys, hforest⟩⟩)
    · exact .package hname
    · obtain ⟨hkey, before, after, hsplit, hbefore⟩ := Layout.badName?_eq_some_iff.1 hbad
      exact .module hname hsplit hbefore hkey
    · obtain ⟨before, path, after, hsplit, hrefused, hbefore⟩ :=
        List.findSome?_eq_some_iff.1 (forest_eq_error_iff.1 hforest)
      exact .source hname (Layout.badName?_eq_none_iff.1 hkeys) hsplit
        (fun other hm => refusal?_eq_none_iff.1 (hbefore other hm)) (refusal?_eq_some_iff.1 hrefused)
  · rintro (hname | ⟨hname, hsplit, hbefore, hkey⟩ | ⟨hname, hkeys, hsplit, hbefore, hrefused⟩)
    · exact .inl ⟨hname, rfl⟩
    · exact .inr ⟨hname, .inl ⟨_, Layout.badName?_eq_some_iff.2 ⟨hkey, _, _, hsplit, hbefore⟩, rfl⟩⟩
    · refine .inr ⟨hname, .inr ⟨Layout.badName?_eq_none_iff.2 hkeys, forest_eq_error_iff.2 ?_⟩⟩
      exact List.findSome?_eq_some_iff.2 ⟨_, _, _, hsplit, refusal?_eq_some_iff.2 hrefused,
        fun other hm => refusal?_eq_none_iff.2 (hbefore other hm)⟩

/-- A package that was assembled has no defect at all. -/
theorem not_flawed_of_assemble {bundle : Bundle} (h : (sources.assemble name layout).2 = .ok bundle) :
    ¬ Flawed sources name layout := by
  obtain ⟨built, hbuilt, -⟩ := assemble_eq_ok_iff.1 h
  obtain ⟨hname, hkeys, children, hforest, -⟩ := build_eq_ok_iff.1 hbuilt
  rintro (hbad | ⟨key, hkey, hbad⟩ | ⟨path, hpath, fault, hread⟩)
  · rw [hname] at hbad
    cases hbad
  · rw [Layout.badName?_eq_none_iff.1 hkeys key hkey] at hbad
    cases hbad
  · obtain ⟨text, htext⟩ := exists_forest_iff.1 ⟨children, hforest⟩ path hpath
    rw [hread] at htext
    cases htext

/-- **There is a first defect just when there is one anywhere.** -/
theorem flawed_iff : Flawed sources name layout ↔ ∃ error, Defect sources name layout error := by
  constructor
  · intro h
    cases hresult : (sources.assemble name layout).2 with
    | error error => exact ⟨error, assemble_eq_error_iff.1 hresult⟩
    | ok bundle => exact absurd h (not_flawed_of_assemble hresult)
  · rintro ⟨error, hname | ⟨hname, hsplit, hbefore, hkey⟩ | ⟨hname, hkeys, hsplit, hbefore, hrefused⟩⟩
    · exact .inl hname
    · exact .inr (.inl ⟨_, by rw [hsplit]; exact List.mem_append_right _ List.mem_cons_self, hkey⟩)
    · exact .inr (.inr ⟨_, by rw [hsplit]; exact List.mem_append_right _ List.mem_cons_self, hrefused.fault⟩)

end Sources
end DtsBundle
