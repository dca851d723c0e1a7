import DtsBundle.Proofs.Assembly.Growth
import DtsBundle.Proofs.Assembly.Rereading
import Mathlib.Data.List.Basic
/-!
# What a unit tells about its sources

A package is written out as one text, and the bodies in it are arbitrary: a line of a body can look like the opening of a
module or like a closing brace.  Still **the text determines what it was made of** (`text_determines_sources`), for how a
line starts tells where it belongs: a reference starts with a slash, a requirement with a keyword, and what stands inside a
block starts with a blank, which the brace that closes the block does not.

Every step cuts a list of lines where lines of one kind end (`append_inj_of_kind`), and the induction is on the layout,
which both packages have in common: it says where a body stands and where there are modules.
-/
namespace DtsBundle

open Text Patterns

/-- **Two lists that begin with items of a kind and go on with another item are cut at the same place.** -/
theorem append_inj_of_kind {α : Type} {p : α → Bool} {a b rest rest' : List α} (ha : ∀ x ∈ a, p x = true)
    (hb : ∀ x ∈ b, p x = true) (hrest : ∀ x ∈ rest.head?, p x = false) (hrest' : ∀ x ∈ rest'.head?, p x = false)
    (h : a ++ rest = b ++ rest') : a = b ∧ rest = rest' := by
  have htake : ∀ {front back : List α}, (∀ x ∈ front, p x = true) → (∀ x ∈ back.head?, p x = false) →
      (front ++ back).takeWhile p = front := by
    intro front back hfront hback
    rw [List.takeWhile_append_of_pos hfront]
    cases back with
    | nil => exact List.append_nil _
    | cons x back =>
      have hx : ¬ p x = true := by rw [hback x rfl]; exact Bool.false_ne_true
      rw [List.takeWhile_cons_of_neg hx, List.append_nil]
  have hab : a = b := by rw [← htake ha hrest, h, htake hb hrest']
  subst hab
  exact ⟨rfl, List.append_cancel_left h⟩

/-! ## Lines -/

theorem referenceLine_inj {a b : Text} (h : referenceLine a = referenceLine b) : a = b := by
  unfold referenceLine at h
  exact List.append_cancel_left (List.append_cancel_right h)

theorem indent_inj {a b : List Text} (h : indent a = indent b) : a = b := by
  refine List.map_injective_iff.2 (fun x y hxy => ?_) h
  exact (List.cons.inj (List.cons.inj hxy).2).2

/-- Whether a line starts with one of some characters. -/
def startsIn (starts : List Char) (line : Text) : Bool :=
  line.head?.any starts.contains

theorem startsIn_of_mem_indent {lines : List Text} : ∀ line ∈ indent lines, startsIn [' '] line = true := by
  intro line hline
  obtain ⟨inner, -, rfl⟩ := List.mem_map.1 hline
  rfl

/-- **A block ends where its brace is**, whatever stands inside. -/
theorem indent_append_inj {a b rest rest' : List Text}
    (h : indent a ++ "\x7d".toList :: rest = indent b ++ "\x7d".toList :: rest') : a = b ∧ rest = rest' := by
  have hbrace : ∀ rest : List Text, ∀ line ∈ ("\x7d".toList :: rest).head?, startsIn [' '] line = false := by
    intro rest line hline
    obtain rfl := Option.some.inj hline
    decide
  obtain ⟨hinside, hbehind⟩ :=
    append_inj_of_kind startsIn_of_mem_indent startsIn_of_mem_indent (hbrace rest) (hbrace rest') h
  exact ⟨indent_inj hinside, (List.cons.inj hbehind).2⟩

theorem Forest.lines_node_inj {name name' : Text} {inside next inside' next' : Forest}
    (h : (node name inside next).lines = (node name' inside' next').lines) :
    inside.lines = inside'.lines ∧ next.lines = next'.lines :=
  indent_append_inj (List.cons.inj h).2

namespace Requirement

theorem startsIn_line (requirement : Requirement) : startsIn ['v', 'i'] requirement.line = true := by
  rcases requirement with ⟨kind, binding, path⟩
  cases kind with
  | var => rfl
  | importAlias => rfl

/-- A statement is read one way: its binding ends where its word does, and its path is what is left. -/
theorem line_inj {a b : Requirement} (ha : ∀ c ∈ a.binding, isWord c = true) (hb : ∀ c ∈ b.binding, isWord c = true)
    (h : a.line = b.line) : a = b := by
  rcases a with ⟨kind, binding, path⟩
  rcases b with ⟨kind', binding', path'⟩
  unfold line at h
  have hbody := List.append_cancel_right h
  simp only [List.append_assoc, List.cons_append] at hbody
  have hkeyword := (keyword?_eq_some_iff.2 hbody).symm.trans (keyword?_eq_some_iff.2 rfl)
  obtain ⟨hkind, hrest⟩ := Prod.mk.inj (Option.some.inj hkeyword)
  have hstop : ∀ path : Text, ∀ c ∈ (" = require('".toList ++ path).head?, isWord c = false := by
    intro path c hc
    obtain rfl := Option.some.inj hc
    decide
  have hbinding : binding ++ (" = require('".toList ++ path) = binding' ++ (" = require('".toList ++ path') :=
    (List.cons.inj hrest).2.symm
  obtain ⟨rfl, hpath⟩ := append_inj_of_kind ha hb (hstop path) (hstop path') hbinding
  obtain rfl := List.append_cancel_left hpath
  rw [hkind]

theorem map_line_inj {a b : List Requirement} (ha : ∀ requirement ∈ a, ∀ c ∈ requirement.binding, isWord c = true)
    (hb : ∀ requirement ∈ b, ∀ c ∈ requirement.binding, isWord c = true) (h : a.map line = b.map line) : a = b := by
  induction a generalizing b with
  | nil => exact (List.map_eq_nil_iff.1 h.symm).symm
  | cons first more ih =>
    obtain ⟨first', more', rfl, hfirst, hmore⟩ := List.map_eq_cons_iff.1 h.symm
    rw [List.forall_mem_cons] at ha hb
    rw [line_inj ha.1 hb.1 hfirst.symm, ih ha.2 hb.2 hmore.symm]

end Requirement

namespace Bundle

theorem block_inj {a b : Bundle} (h : a.block = b.block) : a.children.lines = b.children.lines := by
  unfold block at h
  rw [List.cons_append, List.cons_append] at h
  exact (indent_append_inj (List.cons.inj h).2).1

/-- What comes behind the references of a package is no reference, and what comes behind its requirements no
requirement. -/
theorem startsIn_of_mem_head? (bundle : Bundle) :
    (∀ line ∈ (bundle.requirements.map Requirement.line ++ bundle.block).head?, startsIn ['/'] line = false) ∧
      ∀ line ∈ bundle.block.head?, startsIn ['v', 'i'] line = false := by
  refine ⟨fun line hline => ?_, fun line hline => ?_⟩
  · cases hrequirements : bundle.requirements with
    | nil =>
      rw [hrequirements] at hline
      obtain rfl := Option.some.inj hline
      rfl
    | cons first more =>
      rw [hrequirements] at hline
      obtain rfl := Option.some.inj hline
      rcases first with ⟨kind, binding, path⟩
      cases kind <;> rfl
  · obtain rfl := Option.some.inj hline
    rfl

/-- A package whose text can be cut into its lines again, and each requirement among them into its parts. -/
structure Legible (bundle : Bundle) : Prop where
  word : ∀ requirement ∈ bundle.requirements, ∀ c ∈ requirement.binding, isWord c = true
  line : ∀ line ∈ bundle.lines, '\n' ∉ line

theorem lines_text {bundle : Bundle} (h : bundle.Legible) : Text.lines bundle.text = bundle.lines := by
  refine lines_ofLines ?_ h.line
  rw [lines]
  exact List.append_ne_nil_of_right_ne_nil _ (List.cons_ne_nil _ _)

/-- **The dependencies of a package end where its block begins**, and its references where its requirements do. -/
theorem text_inj {a b : Bundle} (ha : a.Legible) (hb : b.Legible) (htext : a.text = b.text) :
    a.references = b.references ∧ a.requirements = b.requirements ∧ a.children.lines = b.children.lines := by
  have hreference : ∀ paths : List Text, ∀ line ∈ paths.map referenceLine, startsIn ['/'] line = true := by
    intro paths line hline
    obtain ⟨path, -, rfl⟩ := List.mem_map.1 hline
    rfl
  have hrequirement : ∀ requirements : List Requirement, ∀ line ∈ requirements.map Requirement.line,
      startsIn ['v', 'i'] line = true := by
    intro requirements line hline
    obtain ⟨requirement, -, rfl⟩ := List.mem_map.1 hline
    exact requirement.startsIn_line
  have h : a.lines = b.lines := by rw [← lines_text ha, htext, lines_text hb]
  rw [lines_eq, lines_eq, SourceUnit.lines, SourceUnit.lines, List.append_assoc, List.append_assoc] at h
  obtain ⟨hreferences, h⟩ := append_inj_of_kind (hreference _) (hreference _) a.startsIn_of_mem_head?.1
    b.startsIn_of_mem_head?.1 h
  obtain ⟨hrequirements, h⟩ := append_inj_of_kind (hrequirement _) (hrequirement _) a.startsIn_of_mem_head?.2
    b.startsIn_of_mem_head?.2 h
  exact ⟨List.map_injective_iff.2 (fun _ _ => referenceLine_inj) hreferences,
    Requirement.map_line_inj ha.word hb.word hrequirements, block_inj h⟩

end Bundle

namespace Sources

variable {sources sources' : Sources} {name : Text} {layout : Layout} {children children' : Forest} {built built' : Bundle}

/-- **Two forests that have grown from one layout and are written alike hold the same bodies**, source by source. -/
theorem Grown.body_eq (h : Grown sources layout children) (h' : Grown sources' layout children')
    (hbase : sources'.base = sources.base)
    (hlines : (children.mapUnits SourceUnit.bodyOnly).lines = (children'.mapUnits SourceUnit.bodyOnly).lines) :
    ∀ path ∈ layout.sourcePaths sources.base, ∃ text text', sources.files.readText sources.here path = .ok text ∧
      sources'.files.readText sources'.here path = .ok text' ∧
      (SourceUnit.parseWith sources.patterns text).body = (SourceUnit.parseWith sources'.patterns text').body := by
  induction h generalizing children' with
  | empty => exact fun path hpath => absurd hpath List.not_mem_nil
  | @source name stem text rest next hread hnext ih =>
    obtain _ | @⟨_, _, text', _, next', hread', hnext'⟩ := h'
    obtain ⟨hbody, hnextLines⟩ := Forest.lines_node_inj hlines
    rw [hbase] at hread'
    intro path hpath
    rcases List.mem_cons.1 hpath with rfl | hpath
    · refine ⟨text, text', hread, hread', ?_⟩
      simpa [Forest.mapUnits, Forest.lines, SourceUnit.bodyOnly, SourceUnit.lines] using hbody
    · exact ih hnext' hnextLines path hpath
  | group hinside hnext ihInside ihNext =>
    obtain _ | _ | ⟨hinside', hnext'⟩ := h'
    obtain ⟨hinsideLines, hnextLines⟩ := Forest.lines_node_inj hlines
    intro path hpath
    rcases List.mem_append.1 hpath with hpath | hpath
    · exact ihInside hinside' hinsideLines path hpath
    · exact ihNext hnext' hnextLines path hpath

theorem Grown.exists_parse_of_mem_units (h : Grown sources layout children) (hcanonical : sources.patterns = .canonical) :
    ∀ unit ∈ children.units, ∃ text, unit = SourceUnit.parse text := by
  intro unit hunit
  obtain ⟨text, rfl⟩ := h.exists_text_of_mem_units unit hunit
  exact ⟨text, by rw [hcanonical, SourceUnit.parse]⟩

theorem Grown.not_mem_of_mem_lines (h : Grown sources layout children) (hcanonical : sources.patterns = .canonical)
    (hlayout : layout.badName? = none) : ∀ line ∈ (children.mapUnits SourceUnit.bodyOnly).lines, '\n' ∉ line := by
  refine Forest.not_mem_of_mem_lines ?_ ?_
  · intro module hmodule
    rw [Forest.names_mapUnits, h.names_eq] at hmodule
    exact not_mem_of_isIdentifier (Layout.badName?_eq_none_iff.1 hlayout module hmodule) (by decide)
  · intro unit hunit line hline
    rw [Forest.units_mapUnits] at hunit
    obtain ⟨whole, hwhole, rfl⟩ := List.mem_map.1 hunit
    obtain ⟨text, rfl⟩ := h.exists_parse_of_mem_units hcanonical whole hwhole
    exact SourceUnit.not_mem_of_mem_body hline

/-- **A package that was built from canonical sources is legible once it is percolated.** -/
theorem legible_of_build (hcanonical : sources.patterns = .canonical) (hbuilt : (sources.build name layout).2 = .ok built) :
    built.percolate.1.Legible := by
  obtain ⟨hname, hlayout, children, hforest, rfl⟩ := build_eq_ok_iff.1 hbuilt
  have hgrown := forest_eq_ok_iff.1 hforest
  have hunits := hgrown.exists_parse_of_mem_units hcanonical
  rw [Bundle.percolate_eq]
  have hrequirements : ∀ requirement ∈ children.units.flatMap SourceUnit.externals,
      (∀ c ∈ requirement.binding, isWord c = true) ∧ '\n' ∉ requirement.path := by
    intro requirement hm
    obtain ⟨unit, hunit, hm⟩ := List.mem_flatMap.1 hm
    obtain ⟨text, rfl⟩ := hunits unit hunit
    obtain ⟨line, hform, hline⟩ := SourceUnit.exists_requirementForm_of_mem (List.mem_filter.1 hm).1
    exact ⟨hform.binding.2.1, hline⟩
  have hreferences : ∀ path ∈ children.units.flatMap SourceUnit.references, '\n' ∉ path := by
    intro path hm
    obtain ⟨unit, hunit, hm⟩ := List.mem_flatMap.1 hm
    obtain ⟨text, rfl⟩ := hunits unit hunit
    obtain ⟨line, -, hline⟩ := SourceUnit.exists_referenceForm_of_mem hm
    exact hline
  refine ⟨fun requirement hm => (hrequirements requirement hm).1, ?_⟩
  rw [Bundle.lines_eq]
  refine SourceUnit.not_mem_of_mem_lines hreferences hrequirements fun line hline => ?_
  have hopening : '\n' ∉ name := not_mem_of_isIdentifier hname (by decide)
  exact Bundle.not_mem_of_mem_block hopening (hgrown.not_mem_of_mem_lines hcanonical hlayout) hline

/-- **The text of a package determines its dependencies and the body of every source**: two file systems that give the
same text for a layout agree on all of them. -/
theorem text_determines_sources {files' : FileSystem} (hcanonical : sources.patterns = .canonical)
    (hbuilt : (sources.build name layout).2 = .ok built)
    (hbuilt' : ({ sources with files := files' }.build name layout).2 = .ok built')
    (htext : built.percolate.1.text = built'.percolate.1.text) :
    built.percolate.1.references = built'.percolate.1.references ∧
      built.percolate.1.requirements = built'.percolate.1.requirements ∧
      ∀ path ∈ layout.sourcePaths sources.base, ∃ text text', sources.files.readText sources.here path = .ok text ∧
        files'.readText sources.here path = .ok text' ∧ (SourceUnit.parse text).body = (SourceUnit.parse text').body := by
  have hcanonical' : ({ sources with files := files' } : Sources).patterns = .canonical := hcanonical
  have hlegible' := legible_of_build hcanonical' hbuilt'
  obtain ⟨hreferences, hrequirements, hlines⟩ := Bundle.text_inj (legible_of_build hcanonical hbuilt) hlegible' htext
  refine ⟨hreferences, hrequirements, ?_⟩
  obtain ⟨-, -, children, hforest, rfl⟩ := build_eq_ok_iff.1 hbuilt
  obtain ⟨-, -, children', hforest', rfl⟩ := build_eq_ok_iff.1 hbuilt'
  rw [Bundle.percolate_eq, Bundle.percolate_eq] at hlines
  have hbody := (forest_eq_ok_iff.1 hforest).body_eq (forest_eq_ok_iff.1 hforest') rfl hlines
  rw [hcanonical] at hbody
  exact hbody

/-- A source whose body looks like a module. -/
def moduleText : Text :=
  "export module b \x7b\n\x7d\n/// <reference path='r'/>\nvar x = require(\"y\");".toList

/-- The same source with its lines in another order and its dependencies in other quotes. -/
def turnedText : Text :=
  "var x = require('y');\n///<reference  path=\"r\" /> \nexport module b \x7b\n\x7d".toList

/-- A text as `a.ts` in the root. -/
def oneSource (text : Text) : Sources :=
  ⟨⟨[(["a.ts".toList], .file (utf8 text))]⟩, [], [], .canonical⟩

/-- What is built from it for a layout that names it. -/
def oneModule (text : Text) : Bundle :=
  ⟨['p'], [], [], .node ['a'] (.leaf (SourceUnit.parse text) .nil) .nil⟩

theorem text_determines_sources_turned :
    ((oneSource moduleText).build ['p'] (.source ['a'] ['a'] .empty)).2 = .ok (oneModule moduleText) ∧
      ((oneSource turnedText).build ['p'] (.source ['a'] ['a'] .empty)).2 = .ok (oneModule turnedText) ∧
      (oneModule moduleText).percolate.1.text = (oneModule turnedText).percolate.1.text ∧
      (oneModule moduleText).percolate.1.references = (oneModule turnedText).percolate.1.references ∧
      (oneModule moduleText).percolate.1.requirements = (oneModule turnedText).percolate.1.requirements ∧
      (SourceUnit.parse moduleText).body = (SourceUnit.parse turnedText).body := by
  have hbuilt : ((oneSource moduleText).build ['p'] (.source ['a'] ['a'] .empty)).2 = .ok (oneModule moduleText) := by
    decide +kernel
  have hbuilt' : ((oneSource turnedText).build ['p'] (.source ['a'] ['a'] .empty)).2 = .ok (oneModule turnedText) := by
    decide +kernel
  have htext : (oneModule moduleText).percolate.1.text = (oneModule turnedText).percolate.1.text := by decide +kernel
  obtain ⟨hreferences, hrequirements, hbody⟩ := text_determines_sources rfl hbuilt hbuilt' htext
  obtain ⟨text, text', hread, hread', heq⟩ := hbody "a.ts".toList List.mem_cons_self
  have hmodule : (oneSource moduleText).files.readText [] "a.ts".toList = .ok moduleText := by decide +kernel
  have hturned : (oneSource turnedText).files.readText [] "a.ts".toList = .ok turnedText := by decide +kernel
  obtain rfl := Except.ok.inj (hmodule.symm.trans hread)
  obtain rfl := Except.ok.inj (hturned.symm.trans hread')
  exact ⟨hbuilt, hbuilt', htext, hreferences, hrequirements, heq⟩

end Sources
end DtsBundle
