import DtsBundle.Text.Lines
/-!
# Source units

A source file, taken apart: the reference directives it states, the modules it requires, and every other line as it
stands.  Written out again, references come first and requirements second, each in its one canonical form, and the
body last.
-/
namespace DtsBundle

/-- How a requirement binds its name: as a variable, or as an import alias. -/
inductive RequirementKind where
  | var
  | importAlias
deriving DecidableEq, Repr

/-- The keyword a requirement starts with. -/
def RequirementKind.keyword : RequirementKind → Text
  | var => "var".toList
  | importAlias => "import".toList

/-- One required module: the name it is bound to and the path it is found at. -/
structure Requirement where
  kind : RequirementKind
  binding : Text
  path : Text
deriving DecidableEq, Repr

/-- A relative path names another file of the same tree. -/
def Requirement.isRelative (requirement : Requirement) : Bool :=
  requirement.path.head? == some '.'

/-- The canonical statement of a requirement. -/
def Requirement.line (requirement : Requirement) : Text :=
  requirement.kind.keyword ++ ' ' :: requirement.binding ++ " = require('".toList ++ requirement.path ++ "');".toList

/-- The canonical directive for a referenced path. -/
def referenceLine (path : Text) : Text :=
  "/// <reference path=\"".toList ++ path ++ "\" />".toList

/-- A source file, taken apart. -/
structure SourceUnit where
  references : List Text
  requirements : List Requirement
  body : List Text
deriving DecidableEq, Repr

namespace SourceUnit

/-- A unit written out: references, requirements, body. -/
def lines (unit : SourceUnit) : List Text :=
  unit.references.map referenceLine ++ unit.requirements.map Requirement.line ++ unit.body

/-- Whether a unit depends on anything. -/
def hasDependencies (unit : SourceUnit) : Bool :=
  !unit.references.isEmpty || !unit.requirements.isEmpty

/-- The required modules that are not files of the same tree. -/
def externals (unit : SourceUnit) : List Requirement :=
  unit.requirements.filter (!·.isRelative)

/-- A unit with its body alone. -/
def bodyOnly (unit : SourceUnit) : SourceUnit :=
  { unit with references := [], requirements := [] }

end SourceUnit
end DtsBundle
