import RestShell.Compression.Checksum
import RestShell.Compression.Inflate

/-! Zlib streams: two header bytes, a deflate stream and the Adler sum of what it
inflates to. -/

namespace RestShell.Zlib

/-- A good header: a multiple of 31, method 8, a window of at most 32 KiB and no
dictionary. -/
def isHeader (method flags : UInt8) : Bool :=
  let m := method.toNat
  let f := flags.toNat
  (m * 256 + f) % 31 == 0 && !f.testBit 5 && m % 16 == 8 && m / 16 ≤ 7

def read : Bytes → Except Inflate.Fault Bytes
  | method :: flags :: body => do
    if !isHeader method flags then throw .corrupt
    let (out, rest) ← inflate body
    let sum := rest.take 4
    if sum.length < 4 then throw .incomplete
    if Bytes.littleEndian sum.reverse ≠ Checksum.adler32 out then throw .corrupt
    return out
  | _ => .error .incomplete

end RestShell.Zlib
