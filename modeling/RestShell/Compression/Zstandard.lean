import RestShell.Compression.Checksum
import RestShell.Compression.Sequences

/-! Zstandard streams: frames one behind the other, each a header, blocks and
sometimes a checksum; skippable frames hold nothing. A fault is seen as soon as the
bytes that show it are there. -/

namespace RestShell.Zstandard

/-- The header of a frame. -/
structure Header where
  window : Nat
  content : Option Nat
  checksum : Bool
deriving DecidableEq, Repr

def magic : Bytes := [0x28, 0xB5, 0x2F, 0xFD]

/-- True of the first bytes of a frame or of a skippable one. -/
def startsFrame (bs : Bytes) : Bool :=
  (bs.take 4).isPrefixOf magic ||
    match bs.take 4 with
    | [] => true
    | b :: r => b.toNat / 16 == 5 && r.isPrefixOf [0x2A, 0x4D, 0x18]

/-- How many bytes a frame's header has behind its magic number. -/
def headerSize (descriptor : Nat) : Nat :=
  let single := descriptor.testBit 5
  1 + (if single then 0 else 1) + [0, 1, 2, 4].getD (descriptor % 4) 0 +
    [if single then 1 else 0, 2, 4, 8].getD (descriptor / 64) 0

/-- Reads the header behind the magic number; frames of more than 128 MiB of window
and frames with a dictionary are refused. -/
def readHeader (bs : Bytes) : Except Fault (Header × Bytes) := do
  let descriptor := (bs.headD 0).toNat
  let size := headerSize descriptor
  let own := bs.take size
  if bs = [] ∨ own.length < size then throw .incomplete
  if descriptor.testBit 3 then throw .reservedBit
  let single := descriptor.testBit 5
  let w := if single then 0 else (own.getD 1 0).toNat
  let base := Nat.pow 2 (w / 8 + 10)
  if 31 < w / 8 + 10 then throw .windowTooLarge
  let rest := own.drop (if single then 1 else 2)
  let dictSize := [0, 1, 2, 4].getD (descriptor % 4) 0
  let field := rest.drop dictSize
  let number := Bytes.littleEndian field + if field.length = 2 then 256 else 0
  let content := if field = [] then none else some number
  let window := if single then number else base + base / 8 * (w % 8)
  if Bytes.littleEndian (rest.take dictSize) ≠ 0 then throw .wrongDictionary
  if Nat.pow 2 27 + 1 < window then throw .windowTooLarge
  return (⟨window, content, descriptor.testBit 2⟩, bs.drop size)

/-- The blocks of a frame up to the last one. -/
def blocks (limit : Nat) : Nat → History → Bytes → Except Fault (History × Bytes)
  | 0, _, _ => .error .incomplete
  | fuel + 1, h, bs => do
    let header := bs.take 3
    if header.length < 3 then throw .incomplete
    let number := Bytes.littleEndian header
    let kind := number / 2 % 4
    let size := number / 8
    if kind = 3 then throw .corrupt
    let needed := if kind = 1 then 1 else size
    if limit < needed then throw .corrupt
    let own := (bs.drop 3).take needed
    if own.length < needed then throw .incomplete
    let before := h.out.size
    let h ← match kind with
      | 0 => .ok { h with out := own.foldl Array.push h.out }
      | 1 =>
        if limit < size then .error .corrupt
        else .ok { h with out := (List.replicate size (own.headD 0)).foldl Array.push h.out }
      | _ => compressedBlock h own
    if limit < h.out.size - before then throw .corrupt
    let rest := bs.drop (3 + needed)
    if number % 2 = 1 then return (h, rest) else blocks limit fuel h rest

/-- The bytes of one frame, and what follows it. -/
def frame (bs : Bytes) : Except Fault (Bytes × Bytes) := do
  let (header, bs) ← readHeader bs
  let (h, bs) ← blocks (min header.window maxBlock) (bs.length + 1) {} bs
  if header.content.any (· != h.out.size) then throw .corrupt
  let out := h.out.toList
  if header.checksum then
    let sum := bs.take 4
    if sum.length < 4 then throw .incomplete
    if Bytes.littleEndian sum ≠ (Checksum.hash64 out).toNat % Nat.pow 2 32 then throw .checksum
    return (out, bs.drop 4)
  return (out, bs)

/-- What follows a skippable frame. -/
def skipFrame (bs : Bytes) : Except Fault Bytes :=
  let size := Bytes.littleEndian ((bs.drop 4).take 4)
  if bs.length < 8 + size then .error .incomplete else .ok (bs.drop (8 + size))

def frames : Nat → Bytes → Except Fault Bytes
  | 0, _ => .error .incomplete
  | fuel + 1, bs => do
    if !startsFrame bs then throw .unknownFrame
    if bs.length < 5 then throw .incomplete
    let (out, rest) ← if bs.take 4 = magic then frame (bs.drop 4) else (skipFrame bs).map ([], ·)
    if rest = [] then return out else return out ++ (← frames fuel rest)

/-- The bytes of all frames; there must be one. -/
def read (bs : Bytes) : Except Fault Bytes := frames (bs.length + 1) bs

end RestShell.Zstandard
