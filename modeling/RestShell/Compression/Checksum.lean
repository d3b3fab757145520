import RestShell.Text.Utf8

/-! Checksums of byte strings: the cyclic redundancy check of gzip members, the
Adler sum of zlib streams and the 64-bit hash of Zstandard frames. -/

namespace RestShell.Checksum

/-- One bit of the division by the reflected polynomial. -/
def crcStep (r : UInt32) : UInt32 := if r &&& 1 = 1 then (r >>> 1) ^^^ 0xEDB88320 else r >>> 1

def crcByte (r : UInt32) (b : UInt8) : UInt32 := Nat.repeat crcStep 8 (r ^^^ b.toUInt32)

def crc32 (bs : Bytes) : UInt32 := bs.foldl crcByte 0xFFFFFFFF ^^^ 0xFFFFFFFF

def adler32 (bs : Bytes) : Nat :=
  let (a, b) := bs.foldl (fun (a, b) x => ((a + x.toNat) % 65521, (b + a + x.toNat) % 65521)) (1, 0)
  b * 65536 + a

def rotate (x : UInt64) (n : UInt64) : UInt64 := (x <<< n) ||| (x >>> (64 - n))

def prime1 : UInt64 := 0x9E3779B185EBCA87
def prime2 : UInt64 := 0xC2B2AE3D27D4EB4F
def prime3 : UInt64 := 0x165667B19E3779F9
def prime4 : UInt64 := 0x85EBCA77C2B2AE63
def prime5 : UInt64 := 0x27D4EB2F165667C5

/-- The little-endian word of some bytes. -/
def word (bs : Bytes) : UInt64 := bs.foldr (fun b w => (w <<< 8) ||| b.toUInt64) 0

def mixWord (acc w : UInt64) : UInt64 := rotate (acc + w * prime2) 31 * prime1

/-- Four lanes, each mixed with every fourth word. -/
structure Lanes where
  a : UInt64 := prime1 + prime2
  b : UInt64 := prime2
  c : UInt64 := 0
  d : UInt64 := 0 - prime1

def Lanes.feed (l : Lanes) (bs : Bytes) : Lanes :=
  ⟨mixWord l.a (word (bs.take 8)), mixWord l.b (word ((bs.drop 8).take 8)),
    mixWord l.c (word ((bs.drop 16).take 8)), mixWord l.d (word ((bs.drop 24).take 8))⟩

def Lanes.close (l : Lanes) : UInt64 :=
  let merge (h v : UInt64) : UInt64 := (h ^^^ mixWord 0 v) * prime1 + prime4
  let h := rotate l.a 1 + rotate l.b 7 + rotate l.c 12 + rotate l.d 18
  merge (merge (merge (merge h l.a) l.b) l.c) l.d

/-- Feeds `n` stripes of 32 bytes; gives the lanes and the bytes left over. -/
def stripes : Nat → Lanes → Bytes → Lanes × Bytes
  | 0, l, bs => (l, bs)
  | n + 1, l, bs => stripes n (l.feed (bs.take 32)) (bs.drop 32)

/-- Mixes in the last words, at most three of eight bytes and one of four, and then bytes. -/
def tail (h : UInt64) (bs : Bytes) : UInt64 :=
  let words := bs.length / 8
  let h := (List.range words).foldl (fun h i =>
    rotate (h ^^^ mixWord 0 (word ((bs.drop (8 * i)).take 8))) 27 * prime1 + prime4) h
  let bs := bs.drop (8 * words)
  let (h, bs) := if 4 ≤ bs.length then
      (rotate (h ^^^ word (bs.take 4) * prime1) 23 * prime2 + prime3, bs.drop 4)
    else (h, bs)
  bs.foldl (fun h b => rotate (h ^^^ b.toUInt64 * prime5) 11 * prime1) h

def hash64 (bs : Bytes) : UInt64 :=
  let n := bs.length
  let (l, rest) := stripes (n / 32) {} bs
  let h := tail ((if 32 ≤ n then l.close else prime5) + .ofNat n) rest
  let h := (h ^^^ (h >>> 33)) * prime2
  let h := (h ^^^ (h >>> 29)) * prime3
  h ^^^ (h >>> 32)

example : crc32 (Text.bytes "123456789") = 0xCBF43926 := by decide +kernel
example : adler32 (Text.bytes "Wikipedia") = 0x11E60398 := by decide +kernel
example : hash64 [] = 0xEF46DB3751D8E999 := by decide +kernel
example : hash64 (Text.bytes "abc") = 0x44BC2CF5AD770999 := by decide +kernel

end RestShell.Checksum
