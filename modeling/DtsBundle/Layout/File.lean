import DtsBundle.Files.System
import DtsBundle.Layout.Reader
/-!
# Layout files

A layout is loaded from a file that holds its JSON text.  The text may be unreadable, or state no layout, or state one
with a name that is no identifier; names are looked at only when the whole text has been read.
-/
namespace DtsBundle

/-- Why a layout file gives no layout. -/
inductive LayoutError where
  | unreadable (path : Text) (fault : FileFault)
  | malformed (text : Text) (fault : Json.Fault)
  | badName (name : Text)
deriving DecidableEq, Repr

/-- The complaint about a module's name. -/
def badModuleMessage (name : Text) : Text :=
  "Invalid module name '".toList ++ name ++ "': expected an identifier".toList

namespace LayoutError

/-- The wording of an error. -/
def message : LayoutError → Text
  | unreadable path fault => "Failed to read layout config ".toList ++ path ++ ": ".toList ++ fault.message
  | malformed text fault => "Invalid layout config: ".toList ++ fault.message text
  | badName name => badModuleMessage name

/-- The wording of an error, and of what caused it. -/
def causes : LayoutError → List Text
  | unreadable path fault => [message (unreadable path fault), fault.message]
  | malformed text fault => [message (malformed text fault), fault.message text]
  | badName name => [message (badName name)]

end LayoutError

namespace Layout

/-- The layout that a JSON text states, if all its names are identifiers. -/
def parse (text : Text) : Except LayoutError Layout :=
  match ofJson text with
  | .error fault => .error (.malformed text fault)
  | .ok layout =>
    match layout.badName? with
    | some name => .error (.badName name)
    | none => .ok layout

/-- The layout that a file states. -/
def load (fs : FileSystem) (here : Location) (path : Text) : Except LayoutError Layout :=
  match fs.readText here path with
  | .error fault => .error (.unreadable path fault)
  | .ok text => parse text

/-- The source file of a stem. -/
def sourcePath (base stem : Text) : Text :=
  Path.join base (stem ++ ".ts".toList)

/-- The source files of a layout's members and of all below them, in order. -/
def sourcePaths (base : Text) : Layout → List Text
  | empty => []
  | source _ stem rest => sourcePath base stem :: rest.sourcePaths base
  | group _ members rest => members.sourcePaths base ++ rest.sourcePaths base

end Layout

end DtsBundle
