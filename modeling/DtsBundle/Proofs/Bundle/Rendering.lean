import DtsBundle.Proofs.Bundle.Percolation
/-!
# The lines of a package in one pass

A module writes the modules inside it first and moves all their lines in by one step, so a line is moved once for each
module around it.  Nothing of that needs more than the depth: **a package is written in one pass that keeps count of how
deep it is**, and writes each line with its whole indentation (`lines_eq_linesAt`).

A package is read back line by line just when none of the names, paths, bindings and body lines it is made of has a line
feed in it.
-/
namespace DtsBundle

/-- A line with two blanks in front for each step. -/
def shifted (steps : Nat) (line : Text) : Text :=
  List.replicate (2 * steps) ' ' ++ line

theorem shifted_succ (steps : Nat) (line : Text) : shifted (steps + 1) line = shifted steps (' ' :: ' ' :: line) := by
  have htwo : List.replicate (2 * steps + 2) ' ' = List.replicate (2 * steps) ' ' ++ [' ', ' '] :=
    List.replicate_append_replicate.symm
  unfold shifted
  rw [Nat.mul_succ, htwo, List.append_assoc]
  rfl

theorem map_shifted_indent (steps : Nat) (lines : List Text) :
    (indent lines).map (shifted steps) = lines.map (shifted (steps + 1)) := by
  unfold indent
  rw [List.map_map]
  exact List.map_congr_left fun line _ => (shifted_succ steps line).symm

namespace Forest

/-- The lines of a forest in modules of a depth, each with its whole indentation. -/
def linesAt : Nat → Forest → List Text
  | _, nil => []
  | depth, leaf unit next => unit.lines.map (shifted (depth + 1)) ++ next.linesAt depth
  | depth, node name inside next =>
    shifted (depth + 1) ("export module ".toList ++ name ++ " \x7b".toList) :: inside.linesAt (depth + 1)
      ++ shifted (depth + 1) "\x7d".toList :: next.linesAt depth

/-- **At a depth a forest has its lines, moved in at once.** -/
theorem linesAt_eq (forest : Forest) (depth : Nat) : forest.linesAt depth = forest.lines.map (shifted (depth + 1)) := by
  induction forest generalizing depth with
  | nil => rfl
  | leaf unit next ih => rw [linesAt, lines, List.map_append, ih]
  | node name inside next ihInside ihNext =>
    have hinside : (indent inside.lines).map (shifted (depth + 1)) = inside.linesAt (depth + 1) := by
      rw [map_shifted_indent, ihInside]
    rw [linesAt, lines, List.map_append, List.map_cons, List.map_cons, hinside, ihNext]

theorem linesAt_zero (forest : Forest) : forest.linesAt 0 = indent forest.lines :=
  linesAt_eq forest 0

end Forest

/-! ## Line feeds -/

namespace Text

theorem not_mem_around_iff {c : Char} {front middle back : Text} (hf : c ∉ front) (hb : c ∉ back) :
    c ∉ front ++ middle ++ back ↔ c ∉ middle := by
  simp [hf, hb]

/-- Lines put together are read back just when none of them has a line feed. -/
theorem lines_ofLines_iff {ls : List Text} (hne : ls ≠ []) : lines (ofLines ls) = ls ↔ ∀ line ∈ ls, '\n' ∉ line := by
  constructor
  · intro h line hline
    rw [← h] at hline
    exact not_mem_of_mem_lines hline
  · exact lines_ofLines hne

end Text

theorem not_mem_referenceLine_iff {path : Text} : '\n' ∉ referenceLine path ↔ '\n' ∉ path := by
  unfold referenceLine
  exact Text.not_mem_around_iff (by decide) (by decide)

theorem Requirement.not_mem_line_iff {requirement : Requirement} :
    '\n' ∉ requirement.line ↔ '\n' ∉ requirement.binding ∧ '\n' ∉ requirement.path := by
  have hkeyword : '\n' ∉ requirement.kind.keyword := by cases requirement.kind <;> decide
  simp [line, hkeyword]

/-- A unit made of texts without line feeds. -/
structure SourceUnit.IsUnbroken (unit : SourceUnit) : Prop where
  references : ∀ path ∈ unit.references, '\n' ∉ path
  requirements : ∀ requirement ∈ unit.requirements, '\n' ∉ requirement.binding ∧ '\n' ∉ requirement.path
  body : ∀ line ∈ unit.body, '\n' ∉ line

theorem SourceUnit.forall_lines_iff {unit : SourceUnit} : (∀ line ∈ unit.lines, '\n' ∉ line) ↔ unit.IsUnbroken := by
  unfold lines
  simp only [List.forall_mem_append, List.forall_mem_map, not_mem_referenceLine_iff, Requirement.not_mem_line_iff]
  exact ⟨fun ⟨⟨hreferences, hrequirements⟩, hbody⟩ => ⟨hreferences, hrequirements, hbody⟩,
    fun ⟨hreferences, hrequirements, hbody⟩ => ⟨⟨hreferences, hrequirements⟩, hbody⟩⟩

theorem forall_indent_iff {lines : List Text} : (∀ line ∈ indent lines, '\n' ∉ line) ↔ ∀ line ∈ lines, '\n' ∉ line := by
  unfold indent
  simp

theorem Forest.forall_lines_iff {forest : Forest} : (∀ line ∈ forest.lines, '\n' ∉ line) ↔
    (∀ name ∈ forest.names, '\n' ∉ name) ∧ ∀ unit ∈ forest.units, unit.IsUnbroken := by
  induction forest with
  | nil => simp [lines, names, units]
  | leaf unit next ih =>
    simp only [lines, names, units, List.forall_mem_append, List.forall_mem_cons, SourceUnit.forall_lines_iff, ih]
    exact and_left_comm
  | node name inside next ihInside ihNext =>
    have hname : '\n' ∉ "export module ".toList ++ name ++ " \x7b".toList ↔ '\n' ∉ name :=
      Text.not_mem_around_iff (by decide) (by decide)
    have hend : '\n' ∉ "\x7d".toList := by decide
    simp only [lines, names, units, List.cons_append, List.forall_mem_append, List.forall_mem_cons, hname,
      forall_indent_iff, ihInside, ihNext, hend, true_and, not_false_eq_true]
    constructor
    · rintro ⟨hname, ⟨hnames, hunits⟩, hnames', hunits'⟩
      exact ⟨⟨hname, hnames, hnames'⟩, hunits, hunits'⟩
    · rintro ⟨⟨hname, hnames, hnames'⟩, hunits, hunits'⟩
      exact ⟨hname, ⟨hnames, hunits⟩, hnames', hunits'⟩

namespace Bundle

/-- A package made of texts without line feeds: its name, what it depends on, the names of its modules and its units. -/
structure IsUnbroken (bundle : Bundle) : Prop where
  name : '\n' ∉ bundle.name
  references : ∀ path ∈ bundle.references, '\n' ∉ path
  requirements : ∀ requirement ∈ bundle.requirements, '\n' ∉ requirement.binding ∧ '\n' ∉ requirement.path
  modules : ∀ name ∈ bundle.children.names, '\n' ∉ name
  units : ∀ unit ∈ bundle.units, unit.IsUnbroken

theorem forall_lines_iff {bundle : Bundle} : (∀ line ∈ bundle.lines, '\n' ∉ line) ↔ bundle.IsUnbroken := by
  have hopening : '\n' ∉ opening bundle.name ↔ '\n' ∉ bundle.name := by
    unfold opening
    exact Text.not_mem_around_iff (by decide) (by decide)
  have hexport : '\n' ∉ exportLine bundle.name ↔ '\n' ∉ bundle.name := by
    unfold exportLine
    exact Text.not_mem_around_iff (by decide) (by decide)
  have hend : '\n' ∉ "\x7d".toList := by decide
  simp only [lines, List.append_assoc, List.cons_append, List.forall_mem_append, List.forall_mem_cons,
    List.forall_mem_map, List.not_mem_nil, false_imp_iff, implies_true, not_mem_referenceLine_iff,
    Requirement.not_mem_line_iff, forall_indent_iff, Forest.forall_lines_iff, hopening, hexport, hend,
    not_false_eq_true, true_and, and_true]
  constructor
  · rintro ⟨hreferences, hrequirements, hname, ⟨hmodules, hunits⟩, -⟩
    exact ⟨hname, hreferences, hrequirements, hmodules, hunits⟩
  · rintro ⟨hname, hreferences, hrequirements, hmodules, hunits⟩
    exact ⟨hreferences, hrequirements, hname, ⟨hmodules, hunits⟩, hname⟩

/-- **A package is written in one pass that counts its depth**, and is read back line by line just when nothing it is made
of has a line feed. -/
theorem lines_eq_linesAt (bundle : Bundle) :
    bundle.lines = bundle.references.map referenceLine ++ bundle.requirements.map Requirement.line
        ++ ["module ".toList ++ bundle.name ++ " \x7b".toList] ++ bundle.children.linesAt 0
        ++ ["\x7d".toList, "export = ".toList ++ bundle.name ++ ";".toList] ∧
      (Text.lines bundle.text = bundle.lines ↔ bundle.IsUnbroken) := by
  constructor
  · have hblock : opening bundle.name :: indent bundle.children.lines =
        [opening bundle.name] ++ bundle.children.linesAt 0 := by
      rw [Forest.linesAt_zero, List.singleton_append]
    rw [lines, hblock, ← List.append_assoc (_ ++ _)]
    rfl
  · have hne : bundle.lines ≠ [] := by
      unfold lines
      exact List.append_ne_nil_of_right_ne_nil _ (List.cons_ne_nil _ _)
    rw [text, Text.lines_ofLines_iff hne, forall_lines_iff]

end Bundle
end DtsBundle
