import DtsBundle.Proofs.Assembly.Order
import DtsBundle.Proofs.Assembly.Outline
import DtsBundle.Proofs.Layout.Repeats
/-!
# Modules by their names

A module is looked for among siblings by its name, and for each name more inside the module found before.  The search
goes by order, as it takes the first module of a name.  A layout says where an entry stands without any order: a path of
names leads to it, all but the last of which are names of groups (`Layout.LeadsTo`).  **The search for a path finds a
module just when the path leads to an entry, and inside the module is what is built for this entry alone**
(`module?_of_build`).  Percolation touches units and no names, so the same modules are found after it.
-/
namespace DtsBundle

/-! ## Paths in a layout -/

namespace Layout

/-- A path of names leads to an entry: its last name stands for the entry, and each name before it for a group in which
the next one stands. -/
inductive LeadsTo : Layout → List Text → Entry → Prop
  | last {layout : Layout} {name : Text} {entry : Entry} (hmem : (name, entry) ∈ layout.toList) :
    LeadsTo layout [name] entry
  | inside {layout members : Layout} {name : Text} {path : List Text} {entry : Entry}
    (hmem : (name, .group members) ∈ layout.toList) (hpath : LeadsTo members path entry) :
    LeadsTo layout (name :: path) entry

theorem find?_eq_some_iff {layout : Layout} {name : Text} {entry : Entry} (h : layout.isDistinct = true) :
    layout.find? name = some entry ↔ (name, entry) ∈ layout.toList := by
  induction layout using induction_cons with
  | hempty => simp [find?, toList]
  | hcons first value rest ih =>
    obtain ⟨hnew, -, hrest⟩ := isDistinct_cons_iff.1 h
    rw [find?_cons, toList_cons, List.mem_cons, Prod.mk.injEq]
    by_cases hname : first = name
    · subst hname
      have hgone : (first, entry) ∉ rest.toList := by
        intro hmem
        rw [← ih hrest, hnew] at hmem
        cases hmem
      simp [hgone, eq_comm]
    · simp [hname, Ne.symm hname, ih hrest]

theorem isDistinct_of_mem {layout : Layout} {name : Text} {entry : Entry} (h : layout.isDistinct = true)
    (hmem : (name, entry) ∈ layout.toList) : entry.isDistinct = true := by
  induction layout using induction_cons with
  | hempty => cases hmem
  | hcons first value rest ih =>
    obtain ⟨-, hvalue, hrest⟩ := isDistinct_cons_iff.1 h
    rw [toList_cons] at hmem
    rcases List.mem_cons.1 hmem with heq | hmem
    · cases heq
      exact hvalue
    · exact ih hrest hmem

end Layout

/-! ## The search in a forest -/

namespace Forest

/-- The module that is found for a path of names and one name more. -/
def module? (path : List Text) (name : Text) (forest : Forest) : Option Module :=
  (forest.lookup? path).bind (child? name)

/-- A module with a change to every unit inside it. -/
def Module.mapUnits (f : SourceUnit → SourceUnit) (module : Module) : Module :=
  { module with inside := module.inside.mapUnits f }

theorem module?_cons (first : Text) (path : List Text) (name : Text) (forest : Forest) :
    forest.module? (first :: path) name = (forest.child? first).bind fun module => module.inside.module? path name := by
  rw [module?, lookup?, Option.bind_assoc]
  rfl

theorem lookup?_concat (path : List Text) (name : Text) (forest : Forest) :
    forest.lookup? (path ++ [name]) = (forest.module? path name).map Module.inside := by
  induction path generalizing forest with
  | nil => cases h : forest.child? name <;> simp [module?, lookup?, h]
  | cons first path ih =>
    rw [List.cons_append, lookup?, module?_cons, Option.map_bind]
    exact congrArg _ (funext fun module => ih module.inside)

theorem module?_leaf (unit : SourceUnit) (path : List Text) (name : Text) : (leaf unit nil).module? path name = none := by
  cases path <;> rfl

theorem child?_mapUnits (f : SourceUnit → SourceUnit) (name : Text) (forest : Forest) :
    (forest.mapUnits f).child? name = (forest.child? name).map (Module.mapUnits f) := by
  induction forest with
  | nil => rfl
  | leaf unit next ih => exact ih
  | node other inside next _ ih =>
    rw [mapUnits, child?, child?, ih]
    split <;> rfl

theorem module?_mapUnits (f : SourceUnit → SourceUnit) (path : List Text) (name : Text) (forest : Forest) :
    (forest.mapUnits f).module? path name = (forest.module? path name).map (Module.mapUnits f) := by
  induction path generalizing forest with
  | nil => exact child?_mapUnits f name forest
  | cons first path ih =>
    rw [module?_cons, module?_cons, child?_mapUnits, Option.bind_map, Option.map_bind]
    exact congrArg _ (funext fun module => ih module.inside)

end Forest

/-! ## The search in a package that was built -/

namespace Sources

variable {sources : Sources} {layout : Layout} {forest : Forest} {package name : Text} {path : List Text}
  {entry : Layout.Entry}

theorem Grown.child?_of_find?_eq_none (h : Grown sources layout forest) (hfind : layout.find? name = none) :
    forest.child? name = none := by
  induction layout using Layout.induction_cons generalizing forest with
  | hempty =>
    cases h
    rfl
  | hcons first value rest ih =>
    obtain ⟨inside, next, -, hnext, rfl⟩ := grown_cons_iff.1 h
    rw [Layout.find?_cons] at hfind
    by_cases hname : first = name
    · rw [if_pos hname] at hfind
      cases hfind
    · rw [if_neg hname] at hfind
      rw [Forest.child?, if_neg hname, ih hnext hfind]

theorem Grown.child?_of_find? (h : Grown sources layout forest) (hfind : layout.find? name = some entry) :
    ∃ inside, GrownInside sources entry inside ∧ forest.child? name = some ⟨name, inside⟩ := by
  induction layout using Layout.induction_cons generalizing forest with
  | hempty => cases hfind
  | hcons first value rest ih =>
    obtain ⟨inside, next, hinside, hnext, rfl⟩ := grown_cons_iff.1 h
    rw [Layout.find?_cons] at hfind
    by_cases hname : first = name
    · subst hname
      rw [if_pos rfl, Option.some_inj] at hfind
      subst hfind
      exact ⟨inside, hinside, by rw [Forest.child?, if_pos rfl]⟩
    · rw [if_neg hname] at hfind
      rw [Forest.child?, if_neg hname]
      exact ih hnext hfind

/-- **A path that leads to an entry leads the search to its module.** -/
theorem Grown.module?_of_leadsTo (h : Grown sources layout forest) (hdistinct : layout.isDistinct = true)
    (hleads : layout.LeadsTo (path ++ [name]) entry) :
    ∃ inside, GrownInside sources entry inside ∧ forest.module? path name = some ⟨name, inside⟩ := by
  induction path generalizing layout forest with
  | nil =>
    cases hleads with
    | last hmem => exact h.child?_of_find? ((Layout.find?_eq_some_iff hdistinct).2 hmem)
    | inside hmem hpath => cases hpath
  | cons first path ih =>
    rw [List.cons_append] at hleads
    generalize hwhole : path ++ [name] = whole at hleads
    cases hleads with
    | last hmem => simp at hwhole
    | inside hmem hpath =>
      subst hwhole
      obtain ⟨inside, hinside, hchild⟩ := h.child?_of_find? ((Layout.find?_eq_some_iff hdistinct).2 hmem)
      -- the name stands for a group, so what is inside has grown from its members
      obtain _ | hgrown := hinside
      have hmembers := Layout.isDistinct_of_mem hdistinct hmem
      rw [Forest.module?_cons, hchild, Option.bind_some]
      exact ih hgrown hmembers hpath

/-- **Where the search finds a module, its path leads to an entry.** -/
theorem Grown.exists_leadsTo (h : Grown sources layout forest) (hdistinct : layout.isDistinct = true)
    {module : Forest.Module} (hfound : forest.module? path name = some module) :
    ∃ entry, layout.LeadsTo (path ++ [name]) entry := by
  induction path generalizing layout forest with
  | nil =>
    cases hfind : layout.find? name with
    | none =>
      have hnone : forest.module? [] name = none := h.child?_of_find?_eq_none hfind
      rw [hnone] at hfound
      cases hfound
    | some entry => exact ⟨entry, .last ((Layout.find?_eq_some_iff hdistinct).1 hfind)⟩
  | cons first path ih =>
    rw [Forest.module?_cons] at hfound
    cases hfind : layout.find? first with
    | none =>
      rw [h.child?_of_find?_eq_none hfind] at hfound
      cases hfound
    | some entry =>
      obtain ⟨inside, hinside, hchild⟩ := h.child?_of_find? hfind
      have hmem := (Layout.find?_eq_some_iff hdistinct).1 hfind
      rw [hchild, Option.bind_some] at hfound
      cases hinside with
      | source hread =>
        -- no module stands inside that of a source
        rw [Forest.module?_leaf] at hfound
        cases hfound
      | group hgrown =>
        obtain ⟨found, hleads⟩ := ih hgrown (Layout.isDistinct_of_mem hdistinct hmem) hfound
        exact ⟨found, .inside hmem hleads⟩

/-- What a build puts into the module of an entry: the unit of a source, or the modules of a group. -/
def Builds (sources : Sources) : Layout.Entry → Forest → Prop
  | .source stem, inside =>
    ∃ unit, (sources.readUnit (Layout.sourcePath sources.base stem)).2 = .ok unit ∧ inside = .leaf unit .nil
  | .group members, inside => ∀ scope, (sources.forest scope members).2 = .ok inside

theorem GrownInside.builds {inside : Forest} (h : GrownInside sources entry inside) : sources.Builds entry inside := by
  cases h with
  | source hread => exact ⟨_, readUnit_of_ok hread, rfl⟩
  | group hgrown => exact fun scope => forest_eq_ok_iff.2 hgrown

/-- **The modules of a package are found where its layout has an entry, and hold what is built for it**, before
percolation and after, when they are bare. -/
theorem module?_of_build {distinct : Layout.Distinct} {built : Bundle}
    (hbuilt : (sources.build package distinct.layout).2 = .ok built) (path : List Text) (name : Text) :
    ((∃ module, built.children.module? path name = some module) ↔
        ∃ entry, distinct.layout.LeadsTo (path ++ [name]) entry) ∧
      (∀ module entry, built.children.module? path name = some module → distinct.layout.LeadsTo (path ++ [name]) entry →
        module.name = name ∧ sources.Builds entry module.inside) ∧
      built.children.lookup? (path ++ [name]) = (built.children.module? path name).map Forest.Module.inside ∧
      built.percolate.1.children.module? path name =
        (built.children.module? path name).map (Forest.Module.mapUnits SourceUnit.bodyOnly) := by
  obtain ⟨-, -, children, hgrown, rfl⟩ := build_eq_ok_iff_grown.1 hbuilt
  refine ⟨⟨?_, ?_⟩, ?_, Forest.lookup?_concat path name children, ?_⟩
  · rintro ⟨module, hfound⟩
    exact hgrown.exists_leadsTo distinct.isDistinct hfound
  · rintro ⟨entry, hleads⟩
    obtain ⟨inside, -, hfound⟩ := hgrown.module?_of_leadsTo distinct.isDistinct hleads
    exact ⟨_, hfound⟩
  · intro module entry hfound hleads
    obtain ⟨inside, hinside, hmodule⟩ := hgrown.module?_of_leadsTo distinct.isDistinct hleads
    rw [hfound, Option.some_inj] at hmodule
    subst hmodule
    exact ⟨rfl, hinside.builds⟩
  · rw [Bundle.percolate_eq]
    exact Forest.module?_mapUnits _ path name children

/-- A layout with one name at two depths. -/
def nestedLayout : Layout :=
  .source ['a'] ['s'] (.group ['g'] (.source ['a'] ['t'] .empty) .empty)

/-- Its two sources, the second with a dependency. -/
def nestedSources : Sources :=
  ⟨⟨[(["s.ts".toList], .file (Text.utf8 ['s'])), (["t.ts".toList], .file (Text.utf8 "var x = require('x');\nt".toList))]⟩,
    [], [], .canonical⟩

theorem module?_of_build_nested :
    ∃ built, (nestedSources.build ['p'] nestedLayout).2 = .ok built ∧
      (¬ ∃ entry, nestedLayout.LeadsTo [['a'], ['a']] entry) ∧
      ∃ module, built.children.module? [['g']] ['a'] = some module ∧
        module.name = ['a'] ∧ nestedSources.Builds (.source ['t']) module.inside ∧
        built.percolate.1.children.module? [['g']] ['a'] = some ⟨['a'], .leaf ⟨[], [], [['t']]⟩ .nil⟩ := by
  have hbuilt : (nestedSources.build ['p'] nestedLayout).2 =
      .ok ⟨['p'], [], [], .node ['a'] (.leaf ⟨[], [], [['s']]⟩ .nil)
        (.node ['g'] (.node ['a'] (.leaf ⟨[], [⟨.var, ['x'], ['x']⟩], [['t']]⟩ .nil) .nil) .nil)⟩ := by
    decide +kernel
  have hleads : nestedLayout.LeadsTo [['g'], ['a']] (.source ['t']) :=
    .inside (List.mem_cons_of_mem _ List.mem_cons_self) (.last List.mem_cons_self)
  have hdistinct : (nestedSources.build ['p'] (Layout.Distinct.mk nestedLayout rfl).layout).2 = .ok _ := hbuilt
  obtain ⟨hout, -, -, -⟩ := module?_of_build hdistinct [['a']] ['a']
  obtain ⟨hin, hmodule, -, hbare⟩ := module?_of_build hdistinct [['g']] ['a']
  obtain ⟨module, hfound⟩ := hin.2 ⟨_, hleads⟩
  obtain ⟨hname, hbuilds⟩ := hmodule module _ hfound hleads
  refine ⟨_, hbuilt, fun hentry => ?_, module, hfound, hname, hbuilds, hbare⟩
  obtain ⟨other, hother⟩ := hout.2 hentry
  cases hother

end Sources
end DtsBundle
