import RestShell.Assoc
import RestShell.Text.Split
import RestShell.Text.Utf8

/-! The files of a working folder. A tree is a list of nodes under their paths from the
folder; a folder is a node of its own. Paths that leave the folder lead to places that
are only known to be there or not. -/

namespace RestShell

/-- Why a file could not be used. -/
inductive FileError where
  | notFound
  | denied
  | notFolder
  | isFolder
  | nameTooLong
  | zeroByte
  | zeroArgument
  | notUnicode
deriving DecidableEq, Repr

def FileError.message : FileError → String
  | .notFound => "No such file or directory (os error 2)"
  | .denied => "Permission denied (os error 13)"
  | .notFolder => "Not a directory (os error 20)"
  | .isFolder => "Is a directory (os error 21)"
  | .nameTooLong => "File name too long (os error 36)"
  | .zeroByte => "file name contained an unexpected NUL byte"
  | .zeroArgument => "nul byte found in provided data"
  | .notUnicode => "stream did not contain valid UTF-8"

inductive Node where
  | file (content : Bytes)
  | folder
deriving DecidableEq, Repr

/-- Nodes under their paths, segments joined by slashes. -/
abbrev Files := Assoc Node

/-- Where a path leads. -/
inductive Spot where
  /-- Inside the working folder, segments from the outermost on. -/
  | inside (segments : List String)
  /-- Elsewhere. -/
  | outside (segments : List String)
deriving DecidableEq, Repr

namespace Files

def key (segments : List String) : String := Text.join '/' segments

/-- The node at a spot inside; the working folder itself is a folder. -/
def node? (fs : Files) (segments : List String) : Option Node :=
  if segments = [] then some .folder else Assoc.get? (key segments) fs

/-- Folders elsewhere that are taken to be there. -/
def outerFolders : List (List String) := [[], [".."], ["tmp"], ["dev"], ["etc"], ["usr"], ["bin"]]

def outerNode? (segments : List String) : Option Node :=
  if outerFolders.contains segments then some .folder
  else if segments = ["dev", "null"] then some (.file [])
  else none

def nodeAt? (fs : Files) : Spot → Option Node
  | .inside segments => fs.node? segments
  | .outside segments => outerNode? segments

/-- One step to a name. -/
def enter (spot : Spot) (name : String) : Spot :=
  match spot with
  | .inside segments =>
    if name = ".." then if segments = [] then .outside [".."] else .inside segments.dropLast
    else .inside (segments ++ [name])
  | .outside segments =>
    if name = ".." then .outside segments.dropLast else .outside (segments ++ [name])

/-- Walks through folders, all of which must be there. -/
def walk (fs : Files) : Spot → List String → Except FileError Spot
  | spot, [] => .ok spot
  | spot, name :: r =>
    if 255 < (Text.bytes name).length then .error .nameTooLong
    else
      let next := if name = "." then spot else enter spot name
      match nodeAt? fs next with
      | none => .error .notFound
      | some (.file _) => .error .notFolder
      | some .folder => walk fs next r

/-- A path as its segments, whether it is absolute, and whether it asks for a folder. -/
def parts (path : String) : List String × Bool × Bool :=
  ((Text.split '/' path).filter (· != ""), Text.startsWith '/' path, Text.endsWith '/' path)

/-- The folder that holds the last segment of a path, that segment, and whether the path
asks for a folder. A path without segments has no last one. -/
def parent (fs : Files) (path : String) : Except FileError (Spot × Option String × Bool) := do
  if Text.has '\x00' path then throw .zeroByte
  if path = "" then throw .notFound
  if 4095 < (Text.bytes path).length then throw .nameTooLong
  let (segments, absolute, folder) := parts path
  let start : Spot := if absolute then .outside [] else .inside []
  let spot ← walk fs start segments.dropLast
  return (spot, segments.getLast?, folder)

/-- The spot of an existing file or folder. -/
def find (fs : Files) (path : String) : Except FileError (Spot × Node) := do
  let (spot, name, folder) ← parent fs path
  let spot := match name with
    | none | some "." => spot
    | some name => enter spot name
  if name.any fun n => 255 < (Text.bytes n).length then throw .nameTooLong
  match nodeAt? fs spot with
  | none => throw .notFound
  | some (.file content) => if folder then throw .notFolder else return (spot, .file content)
  | some .folder => return (spot, .folder)

/-- The spot at which a file can be written, made if it is not there. -/
def writable (fs : Files) (path : String) : Except FileError Spot := do
  let (spot, name, folder) ← parent fs path
  match name with
  | none | some "." | some ".." => throw .isFolder
  | some name =>
    if folder then throw .isFolder
    if 255 < (Text.bytes name).length then throw .nameTooLong
    let spot := enter spot name
    match nodeAt? fs spot with
    | some .folder => throw .isFolder
    | _ => return spot

def has (fs : Files) (path : String) : Bool :=
  match find fs path with
  | .ok _ => true
  | .error _ => false

def read (fs : Files) (path : String) : Except FileError Bytes := do
  match ← find fs path with
  | (_, .file content) => return content
  | (_, .folder) => throw .isFolder

/-- Puts a node at a spot; nothing is kept of what lies elsewhere. -/
def putAt (fs : Files) (spot : Spot) (n : Node) : Files :=
  match spot with
  | .inside segments => Assoc.put (key segments) n fs
  | .outside _ => fs

/-- Writes a file, in place of its content or behind it. -/
def write (fs : Files) (continued : Bool) (path : String) (content : Bytes) :
    Except FileError Files := do
  let spot ← writable fs path
  let before := match continued, nodeAt? fs spot with
    | true, some (.file bs) => bs
    | _, _ => []
  return putAt fs spot (.file (before ++ content))

end Files
end RestShell
