import DtsBundle.Log
import DtsBundle.Text.Blank
import DtsBundle.Text.Letter
import DtsBundle.Text.Utf8
/-!
# Filters of the log

A filter says which events are logged.  It is written as directives with commas between them: `warn` lets events of a
level and above pass, `part=debug` those of a part of the program, where a part is named by how its targets start, and
`part` alone lets all events of the part pass.  Brackets behind the part narrow a directive down to the events inside a
span, or to those with certain fields: `part[span]=info`, `part[{message}]=info`.  The program opens no span and its
events have the one field `message`.

Of the directives that an event meets the most specific decides: the one with the longest part, then the one with the
most fields, and of two that ask for the same the later.  An event that meets none is not logged.
-/
namespace DtsBundle

/-- A directive of a filter.  The level is the least that passes, or none does. -/
structure Directive where
  part : Text
  inSpan : Bool
  fields : List Text
  asksValue : Bool
  level : Option Level
deriving DecidableEq, Repr

namespace Directive

/-! ## Meaning -/

/-- Whether a directive says something of events outside of spans. -/
def isOpen (directive : Directive) : Bool :=
  !directive.inSpan && !directive.asksValue

/-- Whether an event meets a directive. -/
def isMetBy (directive : Directive) (event : Event) : Bool :=
  directive.isOpen && (Text.after? directive.part event.target).isSome
    && directive.fields.all (· == "message".toList)

/-- Whether a directive is at least as specific as another. -/
def isAsSpecific (directive other : Directive) : Bool :=
  let length := Text.byteCount directive.part
  let otherLength := Text.byteCount other.part
  otherLength < length || (otherLength == length && other.fields.length ≤ directive.fields.length)

/-- The directive that decides about an event. -/
def deciding? (directives : List Directive) (event : Event) : Option Directive :=
  (directives.filter (·.isMetBy event)).foldl
    (fun best directive =>
      match best with
      | some other => if directive.isAsSpecific other then some directive else best
      | none => some directive)
    none

/-- The directive that stands for a filter without any: errors pass. -/
def errors : Directive :=
  ⟨[], false, [], false, some .error⟩

/-- Whether a level lets an event pass. -/
def passes (level : Option Level) (event : Event) : Bool :=
  match level with
  | some least => least.rank ≤ event.level.rank
  | none => false

/-- Whether some directives let an event pass. -/
def allow (directives : List Directive) (event : Event) : Bool :=
  let directives := if directives.isEmpty then [errors] else directives
  match deciding? directives event with
  | some directive => passes directive.level event
  | none => false

/-! ## Reading -/

/-- A number in ASCII digits, which may have a plus sign. -/
def number? (text : Text) : Option Nat :=
  let digits := match text with | '+' :: rest => rest | _ => text
  if digits.isEmpty || !digits.all Char.isDigit then none
  else some (digits.foldl (fun n d => n * 10 + (d.toNat - '0'.toNat)) 0)

/-- The level of a name, in any case, or of a number. -/
def level? (text : Text) : Option (Option Level) :=
  let name := String.ofList (text.map Char.toLower)
  match number? text with
  | some 0 => some none
  | some 1 => some (some .error)
  | some 2 => some (some .warn)
  | some 3 => some (some .info)
  | some 4 => some (some .debug)
  | some 5 => some (some .trace)
  | _ =>
    if name = "off" then some none
    else if name = "error" then some (some .error)
    else if name = "warn" then some (some .warn)
    else if name = "info" then some (some .info)
    else if name = "debug" then some (some .debug)
    else if name = "trace" then some (some .trace)
    else none

/-- Whether a directive may start with a character. -/
def mayStart (c : Char) : Bool :=
  c == '-' || c == ':' || c == '_' || Text.isLetterOrNumeral c

/-- A text without the blanks at both its ends. -/
def trimmed (text : Text) : Text :=
  (Text.skipBlank (Text.skipBlank text).reverse).reverse

/-- A directive with the level that stands behind its equals sign; without one all passes. -/
def withLevel? (directive : Directive) (level : Text) : Option Directive :=
  if level.isEmpty then some { directive with level := some .trace }
  else (level? level).map fun level => { directive with level }

/-- What stands behind the brackets: nothing, or an equals sign and the level. -/
def readEnd? (whole text : Text) (position : Nat) (directive : Directive) : Option Directive :=
  match text.drop position with
  | [] => some directive
  | '=' :: _ => withLevel? directive (whole.drop (position + 1))
  | _ => none

/-- The brackets, from behind the opening one: a span, fields in braces, or both. -/
def readBrackets? (whole text : Text) (position : Nat) (part : Text) : Option Directive :=
  let length := ((text.drop position).takeWhile fun c => c != ']' && c != '\x7b').length
  let span := (whole.drop position).take length
  let behind := position + length
  match text.drop behind with
  | ']' :: _ => readEnd? whole text (behind + 1) ⟨part, true, [], false, some .trace⟩
  | '\x7b' :: rest =>
    let fieldLength := (rest.takeWhile (· != '\x7d')).length
    let field := (whole.drop (behind + 1)).take fieldLength
    match rest.drop fieldLength with
    | '\x7d' :: ']' :: _ =>
      if field.isEmpty then none
      else readEnd? whole text (behind + fieldLength + 3)
        ⟨part, !span.isEmpty, [field.takeWhile (· != '=')], field.contains '=', some .trace⟩
    | _ => none
  | _ => none

/-- A directive.  Its form is told without the blanks around it, its parts are cut from the text with them. -/
def read? (whole : Text) : Option Directive :=
  let text := trimmed whole
  match text with
  | [] => none
  | '[' :: _ => readBrackets? whole text 1 []
  | c :: _ =>
    let length := (text.takeWhile fun c => c != '=' && c != '[').length
    if !mayStart c then none
    else match text.drop length with
      | [] =>
        match level? whole with
        | some level => some ⟨[], false, [], false, level⟩
        | none => some ⟨whole, false, [], false, some .trace⟩
      | '=' :: _ => withLevel? ⟨whole.take length, false, [], false, none⟩ (whole.drop (length + 1))
      | _ => readBrackets? whole text (length + 1) (whole.take length)

/-- The directives of a filter; one that cannot be read spoils all. -/
def readAll? (filter : Text) : Option (List Directive) :=
  ((Text.fields ',' filter).filter (!·.isEmpty)).mapM read?

end Directive
end DtsBundle
