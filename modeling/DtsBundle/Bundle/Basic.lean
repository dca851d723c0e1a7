import DtsBundle.Forest
/-!
# Bundles

A whole package: its name, what it depends on, and its modules.  Written out it is one compilation unit: the
dependencies, the modules inside one named block, and an assignment that exports the block.
-/
namespace DtsBundle

/-- A package: its name, its own dependencies and its modules. -/
structure Bundle where
  name : Text
  references : List Text
  requirements : List Requirement
  children : Forest
deriving DecidableEq, Repr

namespace Bundle

/-- The line that opens the block of a package. -/
def opening (name : Text) : Text :=
  "module ".toList ++ name ++ " \x7b".toList

/-- The line that exports the block of a package. -/
def exportLine (name : Text) : Text :=
  "export = ".toList ++ name ++ ";".toList

/-- The lines of a package: its dependencies, its block and its export. -/
def lines (bundle : Bundle) : List Text :=
  bundle.references.map referenceLine ++ bundle.requirements.map Requirement.line
    ++ opening bundle.name :: indent bundle.children.lines ++ ["\x7d".toList, exportLine bundle.name]

/-- The text of a package. -/
def text (bundle : Bundle) : Text :=
  Text.ofLines bundle.lines

/-- Every unit of a package, from left to right. -/
def units (bundle : Bundle) : List SourceUnit :=
  bundle.children.units

end Bundle
end DtsBundle
