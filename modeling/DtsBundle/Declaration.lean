import DtsBundle.Identifier
import DtsBundle.Log
/-!
# The published declaration

The compiler declares a package as an internal module and exports it; the published file declares an external module,
which makes the export redundant.  Two edits turn the one into the other: the name in the first header is put between
quotes, and the first export assignment goes, with the line end behind it.

A header counts only where its name ends, that is, where no identifier character follows.  After a header of a longer
name the search goes on behind what was looked for.  The export assignment ends with a semicolon, so its first
occurrence in the text with the new header is taken as it is.
-/
namespace DtsBundle

/-- Whether a text goes on with an identifier character. -/
def continuesName : Text → Bool
  | [] => false
  | c :: _ => isIdentifierChar c

namespace Text

/-- The text before and after the first occurrence of a wanted text that no identifier character follows; so many
characters are passed over first. -/
def cutAtName? (wanted : Text) : Nat → Text → Option (Text × Text)
  | _, [] => none
  | skip + 1, c :: rest => (cutAtName? wanted skip rest).map fun (before, behind) => (c :: before, behind)
  | 0, c :: rest =>
    match after? wanted (c :: rest) with
    | some behind =>
      if continuesName behind then
        (cutAtName? wanted (wanted.length - 1) rest).map fun (before, behind) => (c :: before, behind)
      else some ([], behind)
    | none => (cutAtName? wanted 0 rest).map fun (before, behind) => (c :: before, behind)

/-- A text without the line end it may start with. -/
def withoutLineEnd : Text → Text
  | '\r' :: '\n' :: rest => rest
  | '\n' :: rest => rest
  | rest => rest

end Text

/-- An edited declaration, and which of the two edits found their place. -/
structure Edited where
  text : Text
  headerQuoted : Bool
  exportRemoved : Bool
deriving DecidableEq, Repr

namespace Declaration

/-- The header of a package as the compiler writes it. -/
def header (name : Text) : Text :=
  "declare module ".toList ++ name

/-- The header of a package as it is published. -/
def publishedHeader (name : Text) : Text :=
  "declare module \"".toList ++ name ++ ['"']

/-- The text with its first header as it is published, if it has one. -/
def withHeader? (name text : Text) : Option Text :=
  (Text.cutAtName? (header name) 0 text).map fun (before, behind) => before ++ publishedHeader name ++ behind

/-- The text without its first export assignment, if it has one. -/
def withoutExport? (name text : Text) : Option Text :=
  (Text.cutAt? (Bundle.exportLine name) text).map fun (before, behind) => before ++ Text.withoutLineEnd behind

/-- Both edits, each as far as it finds its place. -/
def edit (name text : Text) : Edited :=
  let headed := withHeader? name text
  let bare := withoutExport? name (headed.getD text)
  ⟨bare.getD (headed.getD text), headed.isSome, bare.isSome⟩

end Declaration

namespace Edited

/-- Whether both edits found their place. -/
def isComplete (edited : Edited) : Bool :=
  edited.headerQuoted && edited.exportRemoved

/-- The warnings about edits that did not. -/
def events (name : Text) (edited : Edited) : List Event :=
  (if edited.headerQuoted then [] else [.noHeader (Declaration.header name)])
    ++ (if edited.exportRemoved then [] else [.noExport (Bundle.exportLine name)])

end Edited
end DtsBundle
