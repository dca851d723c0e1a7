import DtsBundle.Characters.Set
import DtsBundle.Expression.Look
/-!
# Expressions

A regular expression is a text to be taken as it stands, a set of which one character is taken, something asked of a
place, a group whose text is remembered, a repetition, parts in a row, or alternatives of which the earlier is
preferred.

Expressions are built in a simplified form.  Rows and choices are flat and end to the right; in a row no part is empty
and no two texts are neighbours; a choice of single characters or of sets is one set; and what all alternatives of a
choice start with stands in front of the choice.  The last of these can change which of several matches is preferred,
so it is part of what an expression means.
-/
namespace DtsBundle

/-- A regular expression. -/
inductive Expression where
  | empty
  | literal (text : Text)
  | one (set : CharSet)
  | look (look : Look)
  | group (index : Nat) (inner : Expression)
  | repeated (inner : Expression) (least : Nat) (most : Option Nat) (greedy : Bool)
  | row (former latter : Expression)
  | choice (former latter : Expression)
deriving DecidableEq, Repr

namespace Expression

/-! ## How much is taken -/

/-- A number of characters that every match takes at least; there is none where an alternative never matches. -/
def least? : Expression → Option Nat
  | empty => some 0
  | literal t => some t.length
  | one set => if set = .empty then none else some 1
  | look _ => some 0
  | group _ inner => inner.least?
  | repeated inner least _ _ => inner.least?.map (· * least)
  | row former latter => former.least?.bind fun m => latter.least?.map (m + ·)
  | choice former latter => former.least?.bind fun m => latter.least?.map (min m ·)

/-- Whether every match takes a character. -/
def takesSome (expression : Expression) : Bool :=
  match expression.least? with
  | some n => 0 < n
  | none => false

/-- Whether no match takes a character. -/
def takesNone : Expression → Bool
  | empty | look _ => true
  | literal _ | one _ => false
  | group _ inner => inner.takesNone
  | repeated inner _ _ _ => inner.takesNone
  | row former latter => former.takesNone && latter.takesNone
  | choice former latter => former.takesNone && latter.takesNone

/-! ## Simplified forms -/

/-- The parts of a row; anything else is its own only part. -/
def parts : Expression → List Expression
  | row former latter => former :: latter.parts
  | expression => [expression]

/-- The alternatives of a choice; anything else is its own only alternative. -/
def alternatives : Expression → List Expression
  | choice former latter => former :: latter.alternatives
  | expression => [expression]

/-- The expression that takes one character of a set. -/
def ofSet (set : CharSet) : Expression :=
  match set.only? with
  | some c => literal [c]
  | none => one set

/-- A part in front of parts that are in simplified form. -/
def before (part : Expression) (rest : List Expression) : List Expression :=
  match part, rest with
  | empty, rest => rest
  | literal s, literal t :: rest => literal (s ++ t) :: rest
  | part, rest => part :: rest

/-- Parts in simplified form as one expression. -/
def ofParts : List Expression → Expression
  | [] => empty
  | [part] => part
  | part :: rest => row part (ofParts rest)

/-- Parts in a row. -/
def inRow (parts : List Expression) : Expression :=
  ofParts ((parts.flatMap Expression.parts).foldr before [])

/-- Alternatives in simplified form as one expression; without any nothing matches. -/
def ofAlternatives : List Expression → Expression
  | [] => one .empty
  | [alternative] => alternative
  | alternative :: rest => choice alternative (ofAlternatives rest)

/-- The set that takes one character exactly as an expression does, if the expression is a single character. -/
def single? : Expression → Option CharSet
  | literal [c] => some (.only c)
  | _ => none

/-- The set of an expression that is one. -/
def set? : Expression → Option CharSet
  | one set => some set
  | _ => none

/-- Alternatives as one expression, with one set for single characters or for sets. -/
def ofFlat (alternatives : List Expression) : Expression :=
  match alternatives with
  | [] | [_] => ofAlternatives alternatives
  | _ =>
    match alternatives.mapM single? <|> alternatives.mapM set? with
    | some sets => ofSet (.unions sets)
    | none => ofAlternatives alternatives

/-- The parts of an expression that is a row. -/
def rowParts? : Expression → Option (List Expression)
  | row former latter => some (former :: latter.parts)
  | _ => none

/-- What two lists both start with. -/
def sharedStart : List Expression → List Expression → List Expression
  | x :: xs, y :: ys => if x = y then x :: sharedStart xs ys else []
  | _, _ => []

/-- What all alternatives start with, if they are rows and start with the same. -/
def sharedParts? (alternatives : List Expression) : Option (List Expression × List (List Expression)) :=
  match alternatives.mapM rowParts? with
  | some (first :: rest) =>
    match rest.foldl sharedStart first with
    | [] => none
    | shared => some (shared, (first :: rest).map (·.drop shared.length))
  | _ => none

/-- A choice of alternatives, of which the earlier is preferred. -/
def inChoice (alternatives : List Expression) : Expression :=
  let flat := alternatives.flatMap Expression.alternatives
  match ofFlat flat with
  | choice former latter =>
    match sharedParts? flat with
    | some (shared, ends) => inRow (shared ++ [ofFlat ((ends.map inRow).flatMap Expression.alternatives)])
    | none => choice former latter
  | expression => expression

/-- An expression repeated; what takes no character need not be repeated more than once. -/
def times (inner : Expression) (least : Nat) (most : Option Nat) (greedy : Bool) : Expression :=
  let (least, most) := if inner.takesNone then (min least 1, some (min (most.getD 1) 1)) else (least, most)
  if most = some 0 then empty
  else if least = 1 ∧ most = some 1 then inner
  else repeated inner least most greedy

end Expression
end DtsBundle
