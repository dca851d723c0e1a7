import DtsBundle.Text.Lines
/-!
# Identifiers

A package and every module of a layout are named by an ASCII identifier: a letter, `_` or `$`, then letters, digits,
`_` and `$`.  The same characters decide where a name ends in a declaration file.
-/
namespace DtsBundle

/-- A character that may stand anywhere in an identifier but at its start, where a digit may not. -/
def isIdentifierChar (c : Char) : Bool :=
  c.isAlphanum || c == '_' || c == '$'

/-- A character an identifier may start with. -/
def isIdentifierStart (c : Char) : Bool :=
  c.isAlpha || c == '_' || c == '$'

/-- Whether a text can name a package or a module. -/
def isIdentifier : Text → Bool
  | [] => false
  | c :: rest => isIdentifierStart c && rest.all isIdentifierChar

end DtsBundle
