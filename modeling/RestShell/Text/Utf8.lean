/-! UTF-8. Encoding is per character; decoding feeds a small machine one byte at
a time. Each maximal part of a broken sequence counts as one fault: the strict
reader refuses it, the lenient one writes the replacement character. -/

namespace RestShell

abbrev Bytes := List UInt8

namespace Utf8

def replacement : Char := '\uFFFD'

def encodeChar (c : Char) : Bytes :=
  let n := c.toNat
  if n < 0x80 then [.ofNat n]
  else if n < 0x800 then [.ofNat (0xC0 + n / 64), .ofNat (0x80 + n % 64)]
  else if n < 0x10000 then
    [.ofNat (0xE0 + n / 4096), .ofNat (0x80 + n / 64 % 64), .ofNat (0x80 + n % 64)]
  else [.ofNat (0xF0 + n / 262144), .ofNat (0x80 + n / 4096 % 64), .ofNat (0x80 + n / 64 % 64),
    .ofNat (0x80 + n % 64)]

def encode (cs : List Char) : Bytes := cs.flatMap encodeChar

/-- What is pending: nothing, or a sequence that still needs bytes, the next of
them between `low` and `high`. -/
inductive State where
  | idle
  | inside (value need low high : Nat)

/-- The first byte of a sequence; `none` in the output is a fault. -/
def start (b : UInt8) : List (Option Char) × State :=
  let n := b.toNat
  if n < 0x80 then ([some (.ofNat n)], .idle)
  else if 0xC2 ≤ n && n ≤ 0xDF then ([], .inside (n - 0xC0) 1 0x80 0xBF)
  else if 0xE0 ≤ n && n ≤ 0xEF then
    ([], .inside (n - 0xE0) 2 (if n = 0xE0 then 0xA0 else 0x80) (if n = 0xED then 0x9F else 0xBF))
  else if 0xF0 ≤ n && n ≤ 0xF4 then
    ([], .inside (n - 0xF0) 3 (if n = 0xF0 then 0x90 else 0x80) (if n = 0xF4 then 0x8F else 0xBF))
  else ([none], .idle)

/-- A byte that cannot continue the pending sequence ends it as a fault and
starts afresh. -/
def feed : State → UInt8 → List (Option Char) × State
  | .idle, b => start b
  | .inside value need low high, b =>
    let n := b.toNat
    if low ≤ n && n ≤ high then
      let value := value * 64 + n % 64
      if need ≤ 1 then ([some (.ofNat value)], .idle) else ([], .inside value (need - 1) 0x80 0xBF)
    else let (out, s) := start b; (none :: out, s)

/-- The characters of the bytes, `none` standing for each fault. -/
def pieces : State → Bytes → List (Option Char)
  | .idle, [] => []
  | .inside .., [] => [none]
  | s, b :: r => let (out, t) := feed s b; out ++ pieces t r

/-- The characters, if every sequence is well formed. -/
def decode? (bs : Bytes) : Option (List Char) := (pieces .idle bs).mapM id

/-- The characters, each fault replaced by U+FFFD. -/
def decodeLossy (bs : Bytes) : List Char := (pieces .idle bs).map (·.getD replacement)

end Utf8

namespace Text

def bytes (s : String) : Bytes := Utf8.encode s.toList

def ofBytes? (bs : Bytes) : Option String := (Utf8.decode? bs).map .ofList

def ofBytesLossy (bs : Bytes) : String := .ofList (Utf8.decodeLossy bs)

end Text
end RestShell
