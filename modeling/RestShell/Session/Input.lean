import RestShell.Text.Utf8

/-! The input of a session. It arrives in chunks, some of which may be failures; what the
session reads are lines and failures. A failure discards a line begun before it; a line
that is no text is a failure of its own. -/

namespace RestShell

/-- Why the input could not be read. -/
inductive InputFault where
  | interrupted
  | timedOut
  | brokenPipe
  | other
  | notUnicode
deriving DecidableEq, Repr

def InputFault.message : InputFault → String
  | .interrupted => "operation interrupted"
  | .timedOut => "timed out"
  | .brokenPipe => "broken pipe"
  | .other => "other error"
  | .notUnicode => "stream did not contain valid UTF-8"

/-- What arrives at once. -/
abbrev Chunk := Except InputFault Bytes

/-- What is read at once; a line has its ending still on it. -/
inductive Reading where
  | line (text : String)
  | failure (fault : InputFault)
deriving DecidableEq, Repr

namespace Reading

def ofLine (bs : Bytes) : Reading :=
  match Text.ofBytes? bs with
  | some text => .line text
  | none => .failure .notUnicode

/-- The chunks byte by byte; an interruption is no failure, reading goes on after it. -/
def bytewise (chunks : List Chunk) : List (Except InputFault UInt8) :=
  chunks.flatMap fun
    | .ok bs => bs.map .ok
    | .error .interrupted => []
    | .error fault => [.error fault]

/-- The readings from a line's beginning on, of which some bytes are pending, last first. -/
def gather : Bytes → List (Except InputFault UInt8) → List Reading
  | [], [] => []
  | b :: pending, [] => [ofLine (b :: pending).reverse]
  | _, .error fault :: r => .failure fault :: gather [] r
  | pending, .ok b :: r =>
    if b = 10 then ofLine (b :: pending).reverse :: gather [] r else gather (b :: pending) r

/-- All that is read of some chunks until they end. -/
def ofChunks (chunks : List Chunk) : List Reading := gather [] (bytewise chunks)

end Reading
end RestShell
