import RestShell.Text.Blank
import RestShell.Text.Split

/-! Paths of a server. Normalising trims the text and runs slashes together; a
location walks a path segment by segment from the working path, `..` going back
one segment and never above the root. -/

namespace RestShell

namespace Chars

/-- Runs of slashes become one slash. -/
def squeeze : List Char → List Char
  | [] => []
  | c :: r => if c = '/' ∧ r.head? = some '/' then squeeze r else c :: squeeze r

def withLead (cs : List Char) : List Char := if cs.head? = some '/' then cs else '/' :: cs

def withTrail (cs : List Char) : List Char := if cs.getLast? = some '/' then cs else cs ++ ['/']

/-- The trimmed path without repeated slashes, with a slash forced at either end
on demand. -/
def normalize (lead trail : Bool) (cs : List Char) : List Char :=
  let base := squeeze (trim cs)
  let led := if lead then withLead base else base
  if trail then withTrail led else led

/-- Follows the segments from the open ones, innermost first; `none` when `..`
finds none to leave. -/
def walk : List (List Char) → List (List Char) → Option (List (List Char))
  | places, [] => some places
  | places, name :: r =>
    if name = [] ∨ name = ['.'] then walk places r
    else if name = ['.', '.'] then
      match places with
      | [] => none
      | _ :: outer => walk outer r
    else walk (name :: places) r

/-- The open segments of a path, innermost first. -/
def places (cs : List Char) : List (List Char) :=
  ((split '/' cs).filter fun s => !s.isEmpty).reverse

end Chars

namespace Path

def normalize (lead trail : Bool) (path : String) : String :=
  .ofList (Chars.normalize lead trail path.toList)

/-- A path that climbs above the root, as it was normalised. -/
structure OutOfBounds where
  path : String
deriving DecidableEq, Repr

def OutOfBounds.message (e : OutOfBounds) : String :=
  "URI is out of bounds: \"" ++ e.path ++ "\"."

end Path

/-- The working path and the one before it. -/
structure Location where
  current : String
  previous : String
deriving DecidableEq, Repr

namespace Location

def root : Location := ⟨"/", "/"⟩

/-- The absolute path that `input` names: `-` the previous path, nothing the
current one, anything else walked from the root or from the current path. -/
def resolve (l : Location) (input : String) : Except Path.OutOfBounds String :=
  if input = "-" then .ok l.previous
  else if input = "" then .ok l.current
  else
    let path := Chars.normalize false false input.toList
    let start := if path.head? = some '/' then [] else Chars.places l.current.toList
    match Chars.walk start (Chars.split '/' path) with
    | none => .error ⟨.ofList path⟩
    | some places =>
      let there := Chars.normalize true false (Chars.join '/' places.reverse)
      .ok (.ofList (if path.getLast? = some '/' then Chars.withTrail there else there))

/-- Moves to the path that `input` names; a failure leaves the location as it is. -/
def enter (l : Location) (input : String) : Except Path.OutOfBounds Location :=
  (l.resolve input).map fun path => ⟨path, l.current⟩

end Location
end RestShell
