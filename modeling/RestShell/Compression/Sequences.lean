import RestShell.Compression.HuffmanTable

/-! Compressed blocks of Zstandard frames. A block holds literals, plain or coded, and
sequences, each a run of literals followed by a copy from what was written before. -/

namespace RestShell.Zstandard

inductive Fault where
  | unknownFrame
  | reservedBit
  | windowTooLarge
  | wrongDictionary
  | missingTable
  | wrongSize
  | corrupt
  | checksum
  | incomplete
deriving DecidableEq, Repr

def orCorrupt {α : Type} : Option α → Except Fault α
  | some a => .ok a
  | none => .error .corrupt

/-- What a block leaves for those after it: the tables in use, the last three offsets
and the bytes written. -/
structure History where
  literals : Option HuffmanTable := none
  lengths : Option Fse.Table := none
  offsets : Option Fse.Table := none
  copies : Option Fse.Table := none
  recent : Nat × Nat × Nat := (1, 4, 8)
  out : Array UInt8 := #[]

/-- Divides after `n` bytes, all of which must be there. -/
def take (n : Nat) (bs : Bytes) : Except Fault (Bytes × Bytes) :=
  let lead := bs.take n
  if lead.length < n then .error .corrupt else .ok (lead, bs.drop n)

def maxBlock : Nat := 131072

/-- The literals coded in one stream or in four. -/
def codedLiterals (t : HuffmanTable) (four : Bool) (n : Nat) (bs : Bytes) : Except Fault Bytes :=
  if !four then orCorrupt (t.decode? n bs)
  else do
    let (jumps, bs) ← take 6 bs
    let size (i : Nat) := Bytes.littleEndian ((jumps.drop (2 * i)).take 2)
    let (a, bs) ← take (size 0) bs
    let (b, bs) ← take (size 1) bs
    let (c, d) ← take (size 2) bs
    let part := (n + 3) / 4
    if n < 3 * part then throw .corrupt
    return (← orCorrupt (t.decode? part a)) ++ (← orCorrupt (t.decode? part b)) ++
      (← orCorrupt (t.decode? part c)) ++ (← orCorrupt (t.decode? (n - 3 * part) d))

/-- The literals of a block, the table that coded them and the rest of the block. -/
def readLiterals (table : Option HuffmanTable) (bs : Bytes) :
    Except Fault (Bytes × Option HuffmanTable × Bytes) := do
  let head := (bs.headD 0).toNat
  let kind := head % 4
  let format := head / 4 % 4
  if kind < 2 then
    let width := if format = 1 then 2 else if format = 3 then 3 else 1
    let (header, bs) ← take width bs
    let n := Bytes.littleEndian header / (if width = 1 then 8 else 16)
    if maxBlock < n then throw .corrupt
    if kind = 0 then
      let (own, rest) ← take n bs
      return (own, table, rest)
    else
      let (own, rest) ← take 1 bs
      return (List.replicate n (own.headD 0), table, rest)
  else
    let width := if format = 3 then 5 else if format = 2 then 4 else 3
    let bits := if format = 3 then 18 else if format = 2 then 14 else 10
    if kind = 3 ∧ table.isNone then throw .missingTable
    let (header, bs) ← take width bs
    let number := Bytes.littleEndian header / 16
    let n := number % Nat.pow 2 bits
    if maxBlock < n then throw .corrupt
    let (own, rest) ← take (number / Nat.pow 2 bits) bs
    let (t, own) ← match kind, table with
      | 3, some t => pure (t, own)
      | _, _ => orCorrupt (HuffmanTable.read? own)
    return (← codedLiterals t (format != 0) n own, some t, rest)

/-- Least value and extra bits of the literal length codes. -/
def lengthRows : List (Nat × Nat) :=
  (List.range 16).map (·, 0) ++
    [(16, 1), (18, 1), (20, 1), (22, 1), (24, 2), (28, 2), (32, 3), (40, 3), (48, 4), (64, 6),
      (128, 7), (256, 8), (512, 9), (1024, 10), (2048, 11), (4096, 12), (8192, 13), (16384, 14),
      (32768, 15), (65536, 16)]

/-- Least value and extra bits of the copy length codes. -/
def copyRows : List (Nat × Nat) :=
  (List.range 32).map (· + 3, 0) ++
    [(35, 1), (37, 1), (39, 1), (41, 1), (43, 2), (47, 2), (51, 3), (59, 3), (67, 4), (83, 4),
      (99, 5), (131, 7), (259, 8), (515, 9), (1027, 10), (2051, 11), (4099, 12), (8195, 13),
      (16387, 14), (32771, 15), (65539, 16)]

def lengthShares : List Int :=
  [4, 3, 2, 2, 2, 2, 2, 2, 2, 2, 2, 2, 2, 1, 1, 1, 2, 2, 2, 2, 2, 2, 2, 2, 2, 3, 2, 1, 1, 1, 1, 1,
    -1, -1, -1, -1]

def offsetShares : List Int :=
  [1, 1, 1, 1, 1, 1, 2, 2, 2, 1, 1, 1, 1, 1, 1, 1, 1, 1, 1, 1, 1, 1, 1, 1, -1, -1, -1, -1, -1]

def copyShares : List Int :=
  [1, 4, 3, 2, 2, 2, 2, 2, 2, 1, 1, 1, 1, 1, 1, 1, 1, 1, 1, 1, 1, 1, 1, 1, 1, 1, 1, 1, 1, 1, 1, 1,
    1, 1, 1, 1, 1, 1, 1, 1, 1, 1, 1, 1, 1, 1, -1, -1, -1, -1, -1, -1, -1]

/-- The table that a mode asks for: the standard one, a single symbol, one that is
written out, or the one before. -/
def chooseTable (mode maxLog maxSymbol standardLog : Nat) (standard : List Int)
    (before : Option Fse.Table) (bs : Bytes) : Except Fault (Fse.Table × Bytes) := do
  match mode with
  | 0 => return (.ofShares standardLog standard, bs)
  | 1 =>
    match bs with
    | [] => throw .corrupt
    | s :: rest => if maxSymbol < s.toNat then throw .corrupt else return (.single s.toNat, rest)
  | 2 => do
    let (log, shares, bits) ← orCorrupt (Fse.readShares maxLog maxSymbol (Bits.ofBytes bs))
    return (.ofShares log shares, Bits.toBytes (Bits.align bits))
  | _ =>
    match before with
    | some t => return (t, bs)
    | none => throw .corrupt

/-- How many sequences a block has. -/
def readCount (bs : Bytes) : Except Fault (Nat × Bytes) :=
  match bs with
  | [] => .error .wrongSize
  | a :: r =>
    let n := a.toNat
    if n < 128 then .ok (n, r)
    else if n < 255 then
      match r with
      | [] => .error .wrongSize
      | b :: r => .ok ((n - 128) * 256 + b.toNat, r)
    else
      match r with
      | b :: c :: r => .ok (b.toNat + c.toNat * 256 + 0x7F00, r)
      | _ => .error .wrongSize

/-- The offset that a value names, and the three most recent ones after it. The values
1 to 3 name recent offsets, one further when no literals precede the copy. -/
def resolveOffset (value literals : Nat) (recent : Nat × Nat × Nat) : Nat × Nat × Nat × Nat :=
  let (a, b, c) := recent
  if 3 < value then (value - 3, value - 3, a, b)
  else
    match value + if literals = 0 then 1 else 0 with
    | 1 => (a, a, b, c)
    | 2 => (b, b, a, c)
    | 3 => (c, c, a, b)
    | _ => (a - 1, a - 1, a, b)

/-- Appends `n` bytes, each the one `distance` back. -/
def copyBack (distance : Nat) : Nat → Array UInt8 → Array UInt8
  | 0, out => out
  | n + 1, out => copyBack distance n (out.push (out.getD (out.size - distance) 0))

/-- The tables of literal lengths, offsets and copy lengths. -/
structure Tables where
  lengths : Fse.Table
  offsets : Fse.Table
  copies : Fse.Table

/-- The states of the three tables. -/
structure States where
  length : Fse.State
  offset : Fse.State
  copy : Fse.State

/-- Carries out `n` sequences; gives the literals left over. -/
def runSequences (t : Tables) : Nat → States → List Bool → Bytes → Nat × Nat × Nat → Array UInt8 →
    Except Fault (Bytes × (Nat × Nat × Nat) × Array UInt8)
  | 0, _, bits, lits, recent, out => if bits = [] then .ok (lits, recent, out) else .error .corrupt
  | n + 1, s, bits, lits, recent, out => do
    let (least, extra) ← orCorrupt lengthRows[s.length.symbol]?
    let (mLeast, mExtra) ← orCorrupt copyRows[s.copy.symbol]?
    let (x, bits, missing) := Fse.takeBack s.offset.symbol bits
    let (y, bits, missing') := Fse.takeBack mExtra bits
    let (z, bits, missing'') := Fse.takeBack extra bits
    let count := least + z
    let (offset, recent) := resolveOffset (Nat.pow 2 s.offset.symbol + x) count recent
    let own := lits.take count
    let out := own.foldl Array.push out
    if missing || missing' || missing'' || own.length < count || offset == 0 ||
        out.size < offset then
      throw .corrupt
    let out := copyBack offset (mLeast + y) out
    if n = 0 then runSequences t 0 s bits (lits.drop count) recent out
    else
      let (length, bits, missing) := t.lengths.next s.length bits
      let (copy, bits, missing') := t.copies.next s.copy bits
      let (offset, bits, missing'') := t.offsets.next s.offset bits
      if missing || missing' || missing'' then throw .corrupt
      runSequences t n ⟨length, offset, copy⟩ bits (lits.drop count) recent out

/-- The history after a compressed block. -/
def compressedBlock (h : History) (bs : Bytes) : Except Fault History := do
  if bs.length < 2 then throw .corrupt
  let (lits, literals, bs) ← readLiterals h.literals bs
  let (n, bs) ← readCount bs
  if n = 0 then
    if bs ≠ [] then throw .corrupt
    return { h with literals, out := lits.foldl Array.push h.out }
  let (modes, bs) ← match bs with
    | m :: r => pure (m.toNat, r)
    | [] => throw .wrongSize
  if modes % 4 ≠ 0 then throw .corrupt
  let (lengths, bs) ← chooseTable (modes / 64) 9 35 6 lengthShares h.lengths bs
  let (offsets, bs) ← chooseTable (modes / 16 % 4) 8 31 5 offsetShares h.offsets bs
  let (copies, bs) ← chooseTable (modes / 4 % 4) 9 52 6 copyShares h.copies bs
  let bits ← orCorrupt (Bits.backward? bs)
  let (length, bits, _) := lengths.start bits
  let (offset, bits, _) := offsets.start bits
  let (copy, bits, missing) := copies.start bits
  if missing then throw .corrupt
  let (lits, recent, out) ←
    runSequences ⟨lengths, offsets, copies⟩ n ⟨length, offset, copy⟩ bits lits h.recent h.out
  return { literals, lengths, offsets, copies, recent, out := lits.foldl Array.push out }

end RestShell.Zstandard
