import RestShell.Compression.Checksum
import RestShell.Compression.Inflate

/-! Gzip members: a header with optional fields, a deflate stream, and the checksum
and length of what it inflates to. Only the first member is read. -/

namespace RestShell.Gzip

inductive Fault where
  | header
  | fieldTooLong
  | ended
  | stream (fault : Inflate.Fault)
  | checksum
deriving DecidableEq, Repr

/-- Divides after `n` bytes, all of which must be there. -/
def take (n : Nat) (bs : Bytes) : Except Fault (Bytes × Bytes) :=
  let lead := bs.take n
  if lead.length < n then .error .ended else .ok (lead, bs.drop n)

/-- What follows a field of text that ends with a zero byte. -/
def skipText (bs : Bytes) : Except Fault Bytes :=
  let text := bs.takeWhile (· != 0)
  if 65535 < text.length then .error .fieldTooLong
  else match bs.drop text.length with
    | [] => .error .ended
    | _ :: rest => .ok rest

/-- What follows the header. Its optional fields are, in this order, extra bytes, a
file name, a comment and a checksum of all before it. -/
def skipHeader (bs : Bytes) : Except Fault Bytes := do
  let (fixed, rest) ← take 10 bs
  let flags := (fixed.getD 3 0).toNat
  if fixed.take 3 ≠ [0x1F, 0x8B, 8] ∨ 32 ≤ flags then throw .header
  let rest ← if flags.testBit 2 then do
      let (size, rest) ← take 2 rest
      let (_, rest) ← take (Bytes.littleEndian size) rest
      pure rest
    else pure rest
  let rest ← if flags.testBit 3 then skipText rest else pure rest
  let rest ← if flags.testBit 4 then skipText rest else pure rest
  if flags.testBit 1 then
    let (sum, after) ← take 2 rest
    let header := bs.take (bs.length - rest.length)
    if Bytes.littleEndian sum ≠ (Checksum.crc32 header).toNat % 65536 then throw .checksum
    return after
  return rest

/-- The bytes of the first member. -/
def read (bs : Bytes) : Except Fault Bytes := do
  let body ← skipHeader bs
  let (out, rest) ← match inflate body with
    | .ok p => pure p
    | .error fault => throw (.stream fault)
  let (trailer, _) ← take 8 rest
  if Bytes.littleEndian (trailer.take 4) = (Checksum.crc32 out).toNat ∧
      Bytes.littleEndian (trailer.drop 4) = out.length % Nat.pow 2 32 then return out
  throw .checksum

end RestShell.Gzip
