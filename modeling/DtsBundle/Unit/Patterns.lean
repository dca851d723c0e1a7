import DtsBundle.Unit.Basic
import DtsBundle.Expression.Automaton
import DtsBundle.Expression.Reader
/-!
# What counts as a dependency line

A pair of patterns decides which lines of a source state a dependency.  The canonical pair accepts the lines
`/// <reference path="some/file.d.ts" />`, `import fs = require('fs');` and `var path = require("path");`,
with either quote, blanks where the forms allow them, and nothing else; a path is anything but empty that does not
hold its own quote.  Each recogniser is a straight scan: what may be skipped is never what must follow, so no choice is
ever taken back.

A pair can be given as two expressions.  The reference expression takes the path in group 1 or 2; the requirement
expression takes the keyword in group 1, the binding in group 2 and the path in group 3 or 4, and a match that lacks
one of the three is no requirement.  The canonical pair is that of `referencePattern` and `requirementPattern`, written
as scans.
-/
namespace DtsBundle

/-- Which lines state a reference and which a requirement. -/
structure Patterns where
  reference? : Text → Option Text
  requirement? : Text → Option Requirement

namespace Patterns

/-- A quoted path that is not empty, and what follows its closing quote. -/
def quoted? : Text → Option (Text × Text)
  | [] => none
  | quote :: rest =>
    if quote = '"' ∨ quote = '\'' then
      match rest.dropWhile (· != quote) with
      | [] => none
      | _ :: after => if rest.head? = some quote then none else some (rest.takeWhile (· != quote), after)
    else none

/-- The path of a canonical reference directive. -/
def canonicalReference? (line : Text) : Option Text := do
  let rest ← Text.after? "///".toList line
  let rest ← Text.after? "<reference".toList (Text.skipBlank rest)
  let rest ← Text.after? "path=".toList (Text.skipBlank rest)
  let (path, rest) ← quoted? rest
  let rest ← Text.after? "/>".toList (Text.skipBlank rest)
  if (Text.skipBlank rest).isEmpty then some path else none

/-- The keyword a text starts with, and what follows it. -/
def keyword? (text : Text) : Option (RequirementKind × Text) :=
  match Text.after? RequirementKind.var.keyword text with
  | some rest => some (.var, rest)
  | none => (Text.after? RequirementKind.importAlias.keyword text).map fun rest => (.importAlias, rest)

/-- A text without the blanks it must start with. -/
def someBlank? : Text → Option Text
  | [] => none
  | c :: rest => if Text.isBlank c then some (Text.skipBlank rest) else none

/-- A word that is not empty, and what follows it. -/
def word? (text : Text) : Option (Text × Text) :=
  match text.takeWhile Text.isWord with
  | [] => none
  | word => some (word, text.dropWhile Text.isWord)

/-- The requirement a canonical statement states. -/
def canonicalRequirement? (line : Text) : Option Requirement := do
  let (kind, rest) ← keyword? line
  let rest ← someBlank? rest
  let (binding, rest) ← word? rest
  let rest ← Text.after? "=".toList (Text.skipBlank rest)
  let rest ← Text.after? "require(".toList (Text.skipBlank rest)
  let (path, rest) ← quoted? rest
  if rest = ");".toList then some ⟨kind, binding, path⟩ else none

/-- The canonical pair. -/
def canonical : Patterns where
  reference? := canonicalReference?
  requirement? := canonicalRequirement?

/-- The path in group 1 or 2 of a match. -/
def pathOf? (found : Match) : Option Text :=
  found.group? 1 <|> found.group? 2

/-- The requirement in groups 1 to 4 of a match. -/
def requirementOf? (found : Match) : Option Requirement := do
  let keyword ← found.group? 1
  let kind ← if keyword = RequirementKind.var.keyword then some .var
    else if keyword = RequirementKind.importAlias.keyword then some .importAlias else none
  let binding ← found.group? 2
  let path ← found.group? 3 <|> found.group? 4
  return ⟨kind, binding, path⟩

/-- The expression of the canonical reference directives. -/
def referencePattern : Text :=
  "^///\\s*<reference\\s*path=(?:\"([^\"]+)\"|'([^']+)')\\s*/>\\s*$".toList

/-- The expression of the canonical requirement statements. -/
def requirementPattern : Text :=
  "^(var|import)\\s+(\\w+)\\s*=\\s*require\\((?:'([^']+)'|\"([^\"]+)\")\\);$".toList

/-- The pair that two expressions spell, if both spell one. -/
def ofExpressions? (reference requirement : Text) : Option Patterns := do
  let reference := (← Expression.read? reference).automaton
  let requirement := (← Expression.read? requirement).automaton
  return ⟨fun line => reference.search? line >>= pathOf?, fun line => requirement.search? line >>= requirementOf?⟩

end Patterns
end DtsBundle
