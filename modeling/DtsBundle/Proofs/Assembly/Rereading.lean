import DtsBundle.Proofs.Assembly.Build
import DtsBundle.Proofs.Identifier
import DtsBundle.Proofs.Unit.Parse
/-!
# Reading an assembled package as a source

An assembled package is written as one source, which can be taken apart again like those it was made of.  Its lines are
those of a unit: what has moved up, and then the block with all the modules (`Bundle.lines_eq`).  The lines inside the
block are moved in, so they start with a blank, and the three around them start like no dependency either.  So **what is
read back is what the sources state, each once and in order, and the block as it was written**
(`parse_text_of_assemble`), as long as no path holds the quote it is written in.
-/
namespace DtsBundle

open Text

namespace Bundle

/-- The block of a package and its export. -/
def block (bundle : Bundle) : List Text :=
  opening bundle.name :: indent bundle.children.lines ++ ["\x7d".toList, exportLine bundle.name]

theorem lines_eq (bundle : Bundle) :
    bundle.lines = (SourceUnit.mk bundle.references bundle.requirements bundle.block).lines := by
  rw [lines, SourceUnit.lines, block, List.append_assoc]

/-- **No line of a block is taken for a dependency**, at whatever depth it stands. -/
theorem stops_of_mem_block {bundle : Bundle} {line : Text} (h : line ∈ bundle.block) : Stops isDependencyStart line := by
  rcases List.mem_append.1 h with h | h
  · rcases List.mem_cons.1 h with rfl | h
    · exact stops_cons.2 (by decide)
    · obtain ⟨inner, -, rfl⟩ := List.mem_map.1 h
      exact stops_cons.2 (by decide)
  · rcases List.mem_cons.1 h with rfl | h
    · exact stops_cons.2 (by decide)
    · obtain rfl := List.mem_singleton.1 h
      exact stops_cons.2 (by decide)

theorem not_mem_of_mem_block {bundle : Bundle} {line : Text} (hname : '\n' ∉ bundle.name)
    (hchildren : ∀ inner ∈ bundle.children.lines, '\n' ∉ inner) (h : line ∈ bundle.block) : '\n' ∉ line := by
  rcases List.mem_append.1 h with h | h
  · rcases List.mem_cons.1 h with rfl | h
    · exact not_mem_around (by decide) hname (by decide)
    · exact Forest.not_mem_of_mem_indent hchildren line h
  · rcases List.mem_cons.1 h with rfl | h
    · decide
    · obtain rfl := List.mem_singleton.1 h
      exact not_mem_around (by decide) hname (by decide)

theorem parse_text {bundle : Bundle} (hname : '\n' ∉ bundle.name)
    (hreferences : ∀ path ∈ bundle.references, ReadablePath path)
    (hrequirements : ∀ requirement ∈ bundle.requirements, requirement.Readable)
    (hchildren : ∀ line ∈ bundle.children.lines, '\n' ∉ line) :
    SourceUnit.parse bundle.text = ⟨bundle.references, bundle.requirements, bundle.block⟩ := by
  rw [text, lines_eq]
  refine SourceUnit.parse_ofLines_lines ?_ hreferences hrequirements fun line hline =>
    ⟨not_mem_of_mem_block hname hchildren hline, stops_of_mem_block hline⟩
  exact List.append_ne_nil_of_right_ne_nil _ (List.cons_ne_nil _ _)

end Bundle

namespace Sources

variable {sources : Sources} {name : Text} {layout : Layout} {texts : List Text}

/-- Sources that can be read are assembled, and what they state moves up. -/
theorem assemble_of_readable (hname : isIdentifier name = true) (hlayout : layout.badName? = none)
    (hread : (layout.sourcePaths sources.base).map (sources.files.readText sources.here) = texts.map .ok) :
    ∃ children : Forest, children.units = texts.map (SourceUnit.parseWith sources.patterns) ∧
      children.names = layout.names ∧
      (sources.assemble name layout).2 = .ok ⟨name,
        texts.flatMap fun text => (SourceUnit.parseWith sources.patterns text).references,
        texts.flatMap fun text => (SourceUnit.parseWith sources.patterns text).externals,
        children.mapUnits SourceUnit.bodyOnly⟩ := by
  obtain ⟨children, hforest, hunits, hnames⟩ := sources.forest_of_readable name hread
  refine ⟨children, hunits, hnames, assemble_eq_ok_iff.2 ⟨⟨name, [], [], children⟩, ?_, ?_⟩⟩
  · exact build_eq_ok_iff.2 ⟨hname, hlayout, children, hforest, rfl⟩
  · rw [Bundle.percolate_eq, Bundle.units, hunits, List.flatMap_map, List.flatMap_map, List.nil_append, List.nil_append]

/-- **A package that was assembled from canonical sources is read back as what they state**: their references and their
requirements of other packages, each in the order of the layout, and the lines of the block. -/
theorem parse_text_of_assemble (hcanonical : sources.patterns = .canonical) (hname : isIdentifier name = true)
    (hlayout : layout.badName? = none)
    (hread : (layout.sourcePaths sources.base).map (sources.files.readText sources.here) = texts.map .ok)
    (hreference : ∀ text ∈ texts, ∀ path ∈ (SourceUnit.parse text).references, '"' ∉ path)
    (hrequirement : ∀ text ∈ texts, ∀ requirement ∈ (SourceUnit.parse text).externals, '\'' ∉ requirement.path) :
    ∃ bundle, (sources.assemble name layout).2 = .ok bundle ∧
      SourceUnit.parse bundle.text =
        { references := texts.flatMap fun text => (SourceUnit.parse text).references
          requirements := texts.flatMap fun text => (SourceUnit.parse text).externals
          body := Bundle.opening name :: indent bundle.children.lines ++ ["\x7d".toList, Bundle.exportLine name] } := by
  obtain ⟨children, hunits, hnames, hok⟩ := assemble_of_readable hname hlayout hread
  rw [hcanonical] at hunits hok
  refine ⟨_, hok, Bundle.parse_text (not_mem_of_isIdentifier hname (by decide)) ?_ ?_ ?_⟩
  · intro path hpath
    obtain ⟨text, htext, hpath⟩ := List.mem_flatMap.1 hpath
    exact SourceUnit.readablePath_of_mem hpath (hreference text htext path hpath)
  · intro requirement hm
    obtain ⟨text, htext, hm⟩ := List.mem_flatMap.1 hm
    exact SourceUnit.readable_of_mem (List.mem_filter.1 hm).1 (hrequirement text htext requirement hm)
  · refine Forest.not_mem_of_mem_lines ?_ ?_
    · intro module hmodule
      rw [Forest.names_mapUnits, hnames] at hmodule
      exact not_mem_of_isIdentifier (Layout.badName?_eq_none_iff.1 hlayout module hmodule) (by decide)
    · intro unit hunit line hline
      rw [Forest.units_mapUnits, hunits, List.map_map] at hunit
      obtain ⟨text, -, rfl⟩ := List.mem_map.1 hunit
      exact SourceUnit.not_mem_of_mem_body hline

/-- A source with a dependency of either kind, in the quotes that are not written. -/
def smallText : Text :=
  "/// <reference path='r'/>\nvar x = require(\"y\");\nz\r".toList

/-- That source, as `a.ts` in the root. -/
def smallSources : Sources :=
  ⟨⟨[(["a.ts".toList], .file (utf8 smallText))]⟩, [], [], .canonical⟩

theorem parse_text_of_assemble_small :
    ∃ bundle, (smallSources.assemble ['p'] (.source ['a'] ['a'] .empty)).2 = .ok bundle ∧
      SourceUnit.parse bundle.text = ⟨[['r']], [⟨.var, ['x'], ['y']⟩],
        ["module p \x7b".toList, "  export module a \x7b".toList, "    z\r".toList, "  \x7d".toList, "\x7d".toList,
          "export = p;".toList]⟩ := by
  obtain ⟨bundle, hok, hparse⟩ := @parse_text_of_assemble smallSources ['p'] (.source ['a'] ['a'] .empty) [smallText] rfl
    (by decide) (by decide) (by decide +kernel) (by decide +kernel) (by decide +kernel)
  refine ⟨bundle, hok, ?_⟩
  rw [hparse, ← Except.ok.inj hok]
  decide +kernel

end Sources
end DtsBundle
