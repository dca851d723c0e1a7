import DtsBundle.Layout.File
import DtsBundle.Proofs.Text.Lines
/-!
# The leaves of a layout

A leaf is a source with the names that lead to it from the outermost in.  The leaves stand in the order in which a
traversal meets them, those of a group where the group stands, and each of them has one file (`map_file_leaves`), so
there are as many as the layout counts sources (`length_leaves`).  A log tells a leaf by its names with dots between
them, behind that of the package.
-/
namespace DtsBundle.Layout

/-- A source of a layout, with the names that lead to it. -/
structure Leaf where
  names : List Text
  stem : Text
deriving DecidableEq, Repr

namespace Leaf

/-- A leaf of a group's members, as a leaf of what the group stands in. -/
def inside (group : Text) (leaf : Leaf) : Leaf :=
  { leaf with names := group :: leaf.names }

/-- The file of a leaf. -/
def file (base : Text) (leaf : Leaf) : Text :=
  sourcePath base leaf.stem

/-- The names of a leaf behind that of the package, with a dot between each two. -/
def qualified (package : Text) (leaf : Leaf) : Text :=
  ['.'].intercalate (package :: leaf.names)

theorem qualified_singleton (package name stem : Text) :
    (⟨[name], stem⟩ : Leaf).qualified package = package ++ '.' :: name := by
  unfold qualified
  simp only [Text.intercalate_cons, List.flatMap_cons, List.flatMap_nil, List.append_nil]

theorem qualified_inside (package group : Text) (leaf : Leaf) :
    (leaf.inside group).qualified package = leaf.qualified (package ++ '.' :: group) := by
  unfold qualified inside
  simp only [Text.intercalate_cons, List.flatMap_cons, List.append_assoc, List.cons_append]

end Leaf

/-- The leaves of a layout in order. -/
def leaves : Layout → List Leaf
  | empty => []
  | source name stem rest => ⟨[name], stem⟩ :: rest.leaves
  | group name members rest => members.leaves.map (.inside name) ++ rest.leaves

theorem map_file_leaves (base : Text) (layout : Layout) : layout.leaves.map (Leaf.file base) = layout.sourcePaths base := by
  induction layout with
  | empty => rfl
  | source name stem rest ih => simp only [leaves, sourcePaths, List.map_cons, ih, Leaf.file]
  | group name members rest ihMembers ihRest =>
    -- the names in front of a leaf do not tell where its file is
    have hfile : Leaf.file base ∘ Leaf.inside name = Leaf.file base := rfl
    simp only [leaves, sourcePaths, List.map_append, List.map_map, hfile, ihMembers, ihRest]

theorem length_leaves (layout : Layout) : layout.leaves.length = layout.sourceCount := by
  induction layout with
  | empty => rfl
  | source name stem rest ih => simp only [leaves, sourceCount, List.length_cons, ih]
  | group name members rest ihMembers ihRest =>
    simp only [leaves, sourceCount, List.length_append, List.length_map, ihMembers, ihRest]

end DtsBundle.Layout
