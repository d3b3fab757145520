import RestShell.Charset.Cells
import RestShell.Text.Blank
import RestShell.Text.Case
import RestShell.Text.Utf8

/-! Character sets and what bytes decode to in them. A step reads the character at the
head of the bytes and says how many further bytes belong to it. A sequence that stands
for nothing is a fault; its last byte starts afresh when it is an ASCII byte. -/

namespace RestShell

inductive Charset where
  | utf8
  | utf16 (bigEndian : Bool)
  /-- A set of one byte per character, with the characters of its last bytes. -/
  | single (rows : List String)
  | gb
  | big5
  | eucJp
  | iso2022Jp
  | shiftJis
  | eucKr
  /-- A set that is not decoded: any bytes are one fault. -/
  | refused
  | userDefined
deriving DecidableEq, Repr

namespace Charset

/-- The characters that the steps give. -/
def run (step : UInt8 → Bytes → List Char × Nat) : Bytes → List Char
  | [] => []
  | b :: r => (step b r).1 ++ run step (r.drop (step b r).2)
termination_by bs => bs.length
decreasing_by simp only [List.length_drop, List.length_cons]; omega

def between (low high n : Nat) : Bool := low ≤ n && n ≤ high

/-- A sequence of two bytes: its characters, or a fault. -/
def pair (chars : List Char) (second : UInt8) : List Char × Nat :=
  if chars = [] then ([fault], if second < 0x80 then 0 else 1) else (chars, 1)

/-- A byte without a character is a control character below A0 and a fault above. -/
def singleStep (row : Array Char) (b : UInt8) (_ : Bytes) : List Char × Nat :=
  let n := b.toNat
  if n < 0x80 then ([.ofNat n], 0)
  else
    let found := if 256 ≤ n + row.size then cell? row (n + row.size - 256) else none
    ([found.getD (if n < 0xA0 then .ofNat n else fault)], 0)

def gbStep (b : UInt8) (r : Bytes) : List Char × Nat :=
  let n := b.toNat
  if n < 0x80 then ([.ofNat n], 0)
  else if n = 0x80 then (['€'], 0)
  else if n = 0xFF then ([fault], 0)
  else match r with
    | [] => ([fault], 0)
    | t :: r =>
      if between 0x30 0x39 t.toNat then
        match r with
        | [] => ([fault], 1)
        | u :: r =>
          if !between 0x81 0xFE u.toNat then ([fault], 0)
          else match r with
            | [] => ([fault], 2)
            | v :: _ =>
              if !between 0x30 0x39 v.toNat then ([fault], 0)
              else
                let number := ((n - 0x81) * 10 + (t.toNat - 0x30)) * 1260 +
                  (u.toNat - 0x81) * 10 + (v.toNat - 0x30)
                ([(Gb.ofNumber? number).getD fault], 3)
      else if between 0x40 0xFE t.toNat && t != 0x7F then pair (Gb.char? n t.toNat).toList t
      else pair [] t

def bigStep (b : UInt8) (r : Bytes) : List Char × Nat :=
  let n := b.toNat
  if n < 0x80 then ([.ofNat n], 0)
  else match r with
    | [] => ([fault], 0)
    | t :: _ =>
      if n = 0x80 || n = 0xFF then ([fault], 0)
      else if between 0x40 0x7E t.toNat then pair (Big.chars ((n - 0x81) * 157 + t.toNat - 0x40)) t
      else if between 0xA1 0xFE t.toNat then pair (Big.chars ((n - 0x81) * 157 + t.toNat - 0x62)) t
      else pair [] t

def krStep (b : UInt8) (r : Bytes) : List Char × Nat :=
  let n := b.toNat
  if n < 0x80 then ([.ofNat n], 0)
  else match r with
    | [] => ([fault], 0)
    | t :: _ => if n = 0x80 || n = 0xFF then ([fault], 0) else pair (Ks.char? n t.toNat).toList t

def shiftJisChar? (lead trail : Nat) : Option Char :=
  if between 0x40 0xFC trail && trail != 0x7F then
    let cell := (lead - if lead < 0xA0 then 0x81 else 0xC1) * 188 + trailIndex trail
    if between 8836 10715 cell then some (.ofNat (0xE000 + (cell - 8836))) else Jis.char? cell
  else none

def shiftJisStep (b : UInt8) (r : Bytes) : List Char × Nat :=
  let n := b.toNat
  if n ≤ 0x80 then ([.ofNat n], 0)
  else if between 0xA1 0xDF n then ([Jis.kana n], 0)
  else if n = 0xA0 || 0xFC < n then ([fault], 0)
  else match r with
    | [] => ([fault], 0)
    | t :: _ => pair (shiftJisChar? n t.toNat).toList t

/-- The cell of two bytes from A1 to FE. -/
def square? (lead trail : Nat) : Option Nat :=
  if between 0xA1 0xFE lead && between 0xA1 0xFE trail then
    some ((lead - 0xA1) * 94 + (trail - 0xA1))
  else none

def eucJpStep (b : UInt8) (r : Bytes) : List Char × Nat :=
  let n := b.toNat
  if n < 0x80 then ([.ofNat n], 0)
  else if n != 0x8E && n != 0x8F && !between 0xA1 0xFE n then ([fault], 0)
  else match r with
    | [] => ([fault], 0)
    | t :: r =>
      if n = 0x8E then pair (if between 0xA1 0xDF t.toNat then [Jis.kana t.toNat] else []) t
      else if n = 0x8F && between 0xA1 0xFE t.toNat then
        match r with
        | [] => ([fault], 1)
        | u :: _ =>
          let (cs, used) := pair ((square? t.toNat u.toNat).bind Jis.more?).toList u
          (cs, used + 1)
      else pair ((square? n t.toNat).bind Jis.char?).toList t

/-- What the bytes of ISO-2022-JP stand for at the moment. -/
inductive Shift where
  | ascii | roman | kana | square
deriving DecidableEq, Repr

def Shift.ofEscape? : Bytes → Option Shift
  | [0x28, 0x42] => some .ascii
  | [0x28, 0x4A] => some .roman
  | [0x28, 0x49] => some .kana
  | [0x24, 0x40] | [0x24, 0x42] => some .square
  | _ => none

def Shift.single (s : Shift) (n : Nat) : Char :=
  match s with
  | .kana => if between 0x21 0x5F n then .ofNat (0xFF61 + (n - 0x21)) else fault
  | .roman => if n = 0x5C then '¥' else if n = 0x7E then '‾' else ascii n
  | _ => ascii n
where
  ascii (n : Nat) : Char := if n < 0x80 && n != 0x0E && n != 0x0F then .ofNat n else fault

/-- Decodes with the given shift; `fresh` says that an escape was the last thing read,
after which a second one is a fault. -/
def shifted (s : Shift) (fresh : Bool) : Bytes → List Char
  | [] => []
  | b :: r =>
    if b = 0x1B then
      match Shift.ofEscape? (r.take 2) with
      | some t => (if fresh then [fault] else []) ++ shifted t true (r.drop 2)
      | none => fault :: shifted s false r
    else if s = .square then
      if between 0x21 0x7E b.toNat then
        match r.head? with
        | none => [fault]
        | some t =>
          if t = 0x1B then fault :: shifted s false r
          else
            let c := if between 0x21 0x7E t.toNat then
                Jis.char? ((b.toNat - 0x21) * 94 + (t.toNat - 0x21))
              else none
            c.getD fault :: shifted s false (r.drop 1)
      else fault :: shifted s false r
    else s.single b.toNat :: shifted s false r
termination_by bs => bs.length
decreasing_by all_goals simp only [List.length_drop, List.length_cons]; omega

/-- A unit of two bytes. -/
def unit (bigEndian : Bool) (a b : UInt8) : Nat :=
  if bigEndian then a.toNat * 256 + b.toNat else b.toNat * 256 + a.toNat

def utf16Step (bigEndian : Bool) (b : UInt8) (r : Bytes) : List Char × Nat :=
  match r with
  | [] => ([fault], 0)
  | t :: r =>
    let u := unit bigEndian b t
    if between 0xDC00 0xDFFF u then ([fault], 1)
    else if between 0xD800 0xDBFF u then
      match r with
      | c :: d :: _ =>
        let v := unit bigEndian c d
        if between 0xDC00 0xDFFF v then
          ([.ofNat (0x10000 + (u - 0xD800) * 0x400 + (v - 0xDC00))], 3)
        else ([fault], 1)
      | _ => ([fault], 2)
    else ([.ofNat u], 1)

/-- The characters of bytes without a byte order mark. -/
def decodePlain : Charset → Bytes → List Char
  | .utf8, bs => Utf8.decodeLossy bs
  | .utf16 bigEndian, bs => run (utf16Step bigEndian) bs
  | .single rows, bs => run (singleStep (ofRows rows)) bs
  | .gb, bs => run gbStep bs
  | .big5, bs => run bigStep bs
  | .eucJp, bs => run eucJpStep bs
  | .iso2022Jp, bs => shifted .ascii false bs
  | .shiftJis, bs => run shiftJisStep bs
  | .eucKr, bs => run krStep bs
  | .refused, bs => if bs = [] then [] else [fault]
  | .userDefined, bs => bs.map fun b => .ofNat (if b < 0x80 then b.toNat else 0xF700 + b.toNat)

/-- The characters of some bytes. A byte order mark at the head decides over the set
that was asked for, and is dropped. -/
def decode (c : Charset) : Bytes → List Char
  | 0xEF :: 0xBB :: 0xBF :: r => decodePlain .utf8 r
  | 0xFF :: 0xFE :: r => decodePlain (.utf16 false) r
  | 0xFE :: 0xFF :: r => decodePlain (.utf16 true) r
  | bs => c.decodePlain bs

end Charset
end RestShell
