import RestShell.Line.Arguments
import RestShell.Text.Blank
import RestShell.Text.Integer

/-! Projections of a JSON value. A path is a dotted list of segments: a key of a
mapping, an index of a list, or `*` for every child. Excluded nodes are removed
first; extraction and captures then select from what is left. -/

namespace RestShell

open Json

namespace Projection

/-- The segments of a path, trimmed and without leading dots. No segment may be empty. -/
def segments (path : String) : Except SyntaxFault (List String) :=
  let cs := (Chars.trim path.toList).dropWhile (· == '.')
  if cs = [] then .ok []
  else
    let parts := Chars.split '.' cs
    if parts.any List.isEmpty then .error (.badPath (.ofList cs)) else .ok (parts.map .ofList)

def children : Value → List Value
  | .object fields => Assoc.values fields
  | .array items => items
  | _ => []

def child? (v : Value) (segment : String) : Option Value :=
  match v with
  | .object fields => Assoc.get? segment fields
  | .array items => (Text.index? segment).bind fun i => items[i]?
  | _ => none

/-- The nodes that a path leads to, in document order. -/
def select : List String → Value → List Value
  | [], v => [v]
  | s :: rest, v =>
    if s = "*" then (children v).flatMap (select rest)
    else match child? v s with
      | some c => select rest c
      | none => []

/-- The value of the first entry with the key, changed by `f`. -/
def adjust (k : String) (f : Value → Value) : Assoc Value → Assoc Value
  | [] => []
  | (j, v) :: r => if j = k then (j, f v) :: r else (j, v) :: adjust k f r

/-- The value without the nodes that a path leads to; the root stays. -/
def remove : List String → Value → Value
  | [], v => v
  | [s], .object fields => .object (if s = "*" then [] else Assoc.erase s fields)
  | [s], .array items =>
    .array (if s = "*" then [] else
      match Text.index? s with
      | some i => items.eraseIdx i
      | none => items)
  | s :: t :: rest, .object fields =>
    .object (if s = "*" then fields.map fun e => (e.1, remove (t :: rest) e.2)
      else adjust s (remove (t :: rest)) fields)
  | s :: t :: rest, .array items =>
    .array (if s = "*" then items.map (remove (t :: rest)) else
      match Text.index? s with
      | some i => items.modify i (remove (t :: rest))
      | none => items)
  | _ :: _, v => v

/-- The value without everything the paths exclude, one path after the other. -/
def prune (v : Value) : List String → Except SyntaxFault Value
  | [] => .ok v
  | path :: rest => do prune (remove (← segments path) v) rest

/-- What the paths select, one path after the other. -/
def selectAll (v : Value) : List String → Except SyntaxFault (List Value)
  | [] => .ok []
  | path :: rest => do
    let found := select (← segments path) v
    return found ++ (← selectAll v rest)

/-- The values of each capture. -/
def captureAll (v : Value) : List Capture → Except SyntaxFault (List (String × List Value))
  | [] => .ok []
  | c :: rest => do
    let found := select (← segments c.path) v
    return (c.key, found) :: (← captureAll v rest)

end Projection

/-- What a projection picked: the matches and, for each capture, its values. -/
structure Projection where
  found : List Value
  captured : List (String × List Value)
deriving DecidableEq

/-- Without extract paths the whole pruned value is the one match. -/
def Projection.of (v : Value) (extract exclude : List String) (captures : List Capture) :
    Except SyntaxFault Projection := do
  let pruned ← prune v exclude
  let found ← if extract = [] then pure [pruned] else selectAll pruned extract
  return ⟨found, ← captureAll pruned captures⟩

end RestShell
