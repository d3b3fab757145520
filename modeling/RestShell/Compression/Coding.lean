import RestShell.Compression.Gzip
import RestShell.Compression.Zlib
import RestShell.Compression.Zstandard
import RestShell.Text.Blank
import RestShell.Text.Case

/-! Content codings by name, and the texts of their faults. -/

namespace RestShell

inductive Coding where
  | gzip
  | deflate
  | zstd
deriving DecidableEq, Repr

namespace Coding

/-- The coding of a name, blanks and case aside. -/
def ofName? (name : String) : Option Coding :=
  match Text.asciiLower (Text.trim name) with
  | "gzip" | "x-gzip" => some .gzip
  | "deflate" => some .deflate
  | "zstd" => some .zstd
  | _ => none

inductive Fault where
  | gzip (fault : Gzip.Fault)
  | deflate (fault : Inflate.Fault)
  | zstd (fault : Zstandard.Fault)
deriving DecidableEq, Repr

def inflateMessage : Inflate.Fault → String
  | .corrupt => "corrupt deflate stream"
  | .incomplete => "incomplete deflate stream"

def gzipMessage : Gzip.Fault → String
  | .header => "invalid gzip header"
  | .fieldTooLong => "gzip header field too long"
  | .ended => "unexpected end of file"
  | .stream fault => inflateMessage fault
  | .checksum => "corrupt gzip stream does not have a matching checksum"

def zstdMessage : Zstandard.Fault → String
  | .unknownFrame => "Unknown frame descriptor"
  | .reservedBit => "Unsupported frame parameter"
  | .windowTooLarge => "Frame requires too much memory for decoding"
  | .wrongDictionary => "Dictionary mismatch"
  | .missingTable => "Dictionary is corrupted"
  | .wrongSize => "Src size is incorrect"
  | .corrupt => "Data corruption detected"
  | .checksum => "Restored data doesn't match checksum"
  | .incomplete => "incomplete frame"

def Fault.message : Fault → String
  | .gzip fault => gzipMessage fault
  | .deflate fault => inflateMessage fault
  | .zstd fault => zstdMessage fault

def decode : Coding → Bytes → Except Fault Bytes
  | .gzip, bs => (Gzip.read bs).mapError .gzip
  | .deflate, bs => (Zlib.read bs).mapError .deflate
  | .zstd, bs => (Zstandard.read bs).mapError .zstd

end Coding
end RestShell
