import DtsBundle.Text.Lines
/-!
# Paths as they are typed

A path is a text with slashes in it and is kept as it was typed: putting two together resolves nothing and normalises
nothing, so a message repeats what its reader wrote.
-/
namespace DtsBundle.Path

/-- Whether a path starts at the root. -/
def isAbsolute (path : Text) : Bool :=
  path.head? == some '/'

/-- A path seen from a base: an absolute path stands for itself, and so does any path seen from the empty base. -/
def join (base path : Text) : Text :=
  if isAbsolute path || base.isEmpty then path
  else if base.getLast? = some '/' then base ++ path
  else base ++ '/' :: path

/-- How many parts a relative path has; empty parts do not count, and a dot counts only in front. -/
def partCount (path : Text) : Nat :=
  match Text.fields '/' path with
  | [] => 0
  | first :: rest => (if first.isEmpty then 0 else 1) + (rest.filter fun part => part ≠ [] ∧ part ≠ ['.']).length

end DtsBundle.Path
