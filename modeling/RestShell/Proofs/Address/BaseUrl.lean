import Mathlib.Data.List.Basic
import RestShell.Address.Url
import RestShell.Proofs.Text.Pieces

/-! Base URLs that were read. A text is first divided at its marks; what a URL has of it
follows from the division, apart from the port and the scheme, which are checked. -/

namespace RestShell
namespace Url

/-- A text divided at the marks of a URL, with nothing checked. -/
structure Division where
  scheme : List Char
  name : List Char
  port : Option (List Char)
  path : List Char
  params : List Char
  query : List Char
  fragment : List Char

namespace Division
open Chars

def of (cs : List Char) : Division :=
  let (scheme, rest) := splitScheme cs
  let (host, tail) := (cut '/' rest).getD (rest, [])
  let (name, port) := match cut ':' host with
    | some (name, port) => (name, some port)
    | none => (host, none)
  let (tail, fragment) := (cut '#' tail).getD (tail, [])
  let (tail, query) := (cut '?' tail).getD (tail, [])
  let (path, params) := splitParams ('/' :: tail)
  ⟨scheme, name, port, path, params, query, fragment⟩

/-- The port that the text names, or the default one. -/
def portNumber (d : Division) : Except Fault Nat :=
  match d.port with
  | some text => readPort text
  | none => .ok ((defaultPort? (.ofList d.scheme)).getD 80)

/-- The URL of the division with the given port. -/
def url (d : Division) (port : Nat) : Url where
  scheme := .ofList d.scheme
  hostname := if d.name = [] then "localhost" else .ofList (lower d.name)
  port := port
  path := .ofList d.path
  params := .ofList d.params
  query := .ofList d.query
  fragment := .ofList d.fragment

end Division

open Chars

/-- Reading is dividing, then reading the port, then checking the scheme. -/
theorem readChars_eq {cs : List Char} (h : cs ≠ []) :
    readChars cs = match (Division.of cs).portNumber with
      | .error fault => .error fault
      | .ok port =>
        if (defaultPort? (.ofList (Division.of cs).scheme)).isNone then .error .badScheme
        else .ok ((Division.of cs).url port) := by
  rw [readChars, if_neg h]
  cases hc : cut ':' ((cut '/' (splitScheme cs).2).getD ((splitScheme cs).2, [])).1 with
  | none =>
    simp only [Division.portNumber, Division.of, Division.url, hc]
    simp only [bind, Except.bind, pure, Except.pure, throw, throwThe, MonadExceptOf.throw]
  | some p =>
    simp only [Division.portNumber, Division.of, Division.url, hc]
    cases readPort p.2 with
    | error fault => rfl
    | ok port => rfl

theorem read_eq_ok_iff {text : String} {u : Url} : read text = .ok u ↔ trim text.toList ≠ [] ∧
    ∃ port, (Division.of (trim text.toList)).portNumber = .ok port ∧
      (defaultPort? (.ofList (Division.of (trim text.toList)).scheme)).isSome ∧
      u = (Division.of (trim text.toList)).url port := by
  have hread : read text = .ok u ↔ readChars (trim text.toList) = .ok u := by
    simp only [read, Except.mapError]
    split
    · rename_i hr
      simp [hr]
    · rename_i hr
      simp [hr]
  rw [hread]
  by_cases hne : trim text.toList = []
  · have hempty : readChars [] = .error .empty := rfl
    simp [hne, hempty]
  · rw [readChars_eq hne]
    cases hp : (Division.of (trim text.toList)).portNumber with
    | error fault => simp
    | ok port =>
      cases hs : defaultPort? (.ofList (Division.of (trim text.toList)).scheme) with
      | none => simp
      | some n => simp [hne, eq_comm]

theorem defaultPort?_isSome_iff (scheme : String) :
    (defaultPort? scheme).isSome ↔ scheme = "http" ∨ scheme = "https" := by
  unfold defaultPort?
  split <;> simp_all

theorem notMem_cut_fst (sep : Char) (cs : List Char) : sep ∉ ((cut sep cs).getD (cs, [])).1 := by
  cases h : cut sep cs with
  | none => exact cut_eq_none_iff.1 h
  | some p => exact (cut_eq_some h).2

end Url
end RestShell
