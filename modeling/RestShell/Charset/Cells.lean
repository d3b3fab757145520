import RestShell.Charset.BigTable
import RestShell.Charset.GbRanges
import RestShell.Charset.GbTable
import RestShell.Charset.JisMoreTable
import RestShell.Charset.JisTable
import RestShell.Charset.KsTable
import RestShell.Charset.SingleByteTable

/-! Looking up characters by cell. The national standards number the cells of a square;
their extensions fill the bytes outside it with the remaining ideographs or syllables
in the order of their code points. -/

namespace RestShell.Charset

/-- The mark of a cell without a character, which is also what a fault decodes to. -/
def fault : Char := '\uFFFD'

def ofRows (rows : List String) : Array Char := (rows.flatMap (·.toList)).toArray

/-- The character of a cell, if it has one. -/
def cell? (cells : Array Char) (i : Nat) : Option Char := cells[i]?.filter (· != fault)

/-- Cells filled from runs, each with the number of its first cell. -/
def ofRuns (size : Nat) (runs : List (Nat × String)) : Array Char :=
  runs.foldl (fun cells run =>
    (run.2.toList.foldl (fun (acc, i) c => (acc.setIfInBounds i c, i + 1)) (cells, run.1)).1)
    (Array.replicate size fault)

/-- The code points from `first` to `last` that do not occur in `used`, in order. -/
def remaining (first last : Nat) (used : Array Char) : Array Char :=
  let seen := used.foldl (fun (m : Array Bool) c => m.setIfInBounds (c.toNat - first) true)
    (Array.replicate (last + 1 - first) false)
  let missing := (List.range (last + 1 - first)).filter fun i => !seen.getD i true
  (missing.map fun i => .ofNat (first + i)).toArray

/-- The position of a trail byte among 40 to FE without 7F. -/
def trailIndex (t : Nat) : Nat := t - if t < 0x7F then 0x40 else 0x41

namespace Gb

def signs : Array Char := ofRows GbTable.signs
def lowSigns : Array Char := ofRows GbTable.lowSigns
def ideographs : Array Char := ofRows GbTable.ideographs

/-- The ideographs that the standard leaves out, and the last signs. -/
def rest : Array Char := remaining 0x4E00 0x9FA5 ideographs ++ ofRows GbTable.lastSigns

/-- The cell's character for private use. -/
def private? (cell : Nat) : Option Char :=
  (GbTable.privateRuns.find? fun (first, _, n) => first ≤ cell && cell < first + n).map
    fun (first, code, _) => .ofNat (code + (cell - first))

/-- The character of two bytes, the second one in range. The signs are surrounded by
cells for private use, one of which is a space by custom. -/
def char? (lead trail : Nat) : Option Char :=
  let i := trailIndex trail
  let row := lead - 0xA1
  let assigned :=
    if lead = 0xA3 ∧ trail = 0xA0 then some '\u3000'
    else if lead ≤ 0xA0 then cell? rest ((lead - 0x81) * 190 + i)
    else if 0xA1 ≤ trail then
      let j := trail - 0xA1
      if lead ≤ 0xA9 then cell? signs (row * 94 + j)
      else if lead ≤ 0xAF then some (.ofNat (0xE000 + (lead - 0xAA) * 94 + j))
      else if lead ≤ 0xF7 then cell? ideographs ((lead - 0xB0) * 94 + j)
      else some (.ofNat (0xE234 + (lead - 0xF8) * 94 + j))
    else if lead ≤ 0xA7 then some (.ofNat (0xE4C6 + row * 96 + i))
    else if lead ≤ 0xA9 then cell? lowSigns ((lead - 0xA8) * 96 + i)
    else cell? rest (6080 + (lead - 0xAA) * 96 + i)
  assigned <|> private? ((lead - 0x81) * 190 + i)

/-- The character of a four-byte sequence, by its number. -/
def ofNumber? (n : Nat) : Option Char :=
  if n = 7457 then some '\uE7C7'
  else if 189000 ≤ n ∧ n ≤ 1237575 then some (.ofNat (0x10000 + (n - 189000)))
  else if 39419 < n then none
  else ((GbRanges.rows.takeWhile (·.1 ≤ n)).getLast?).map fun (first, code) =>
    .ofNat (code + (n - first))

end Gb

namespace Ks

def signs : Array Char := ofRows KsTable.signs
def syllables : Array Char := ofRows KsTable.syllables
def ideographs : Array Char := ofRows KsTable.ideographs

/-- The syllables that the standard leaves out. -/
def rest : Array Char := remaining 0xAC00 0xD7A3 syllables

/-- The position of a trail byte among 41 to 5A, 61 to 7A and 81 to FE. -/
def trail? (t : Nat) : Option Nat :=
  if 0x41 ≤ t ∧ t ≤ 0x5A then some (t - 0x41)
  else if 0x61 ≤ t ∧ t ≤ 0x7A then some (t - 0x61 + 26)
  else if 0x81 ≤ t ∧ t ≤ 0xFE then some (t - 0x81 + 52)
  else none

/-- The character of two bytes, the first from 81 to FE. -/
def char? (lead trail : Nat) : Option Char :=
  if 0xFE < trail then none
  else if 0xA1 ≤ lead ∧ 0xA1 ≤ trail then
    let j := trail - 0xA1
    if lead ≤ 0xAC then cell? signs ((lead - 0xA1) * 94 + j)
    else if 0xB0 ≤ lead ∧ lead ≤ 0xC8 then cell? syllables ((lead - 0xB0) * 94 + j)
    else if 0xCA ≤ lead ∧ lead ≤ 0xFD then cell? ideographs ((lead - 0xCA) * 94 + j)
    else none
  else do
    let i ← trail? trail
    cell? rest (if lead ≤ 0xA0 then (lead - 0x81) * 178 + i else 5696 + (lead - 0xA1) * 84 + i)

end Ks

namespace Jis

def cells : Array Char := ofRuns 11104 JisTable.runs

def moreCells : Array Char := ofRuns 8836 JisMoreTable.runs

def char? (cell : Nat) : Option Char := cell? cells cell

def more? (cell : Nat) : Option Char := cell? moreCells cell

/-- The half-width kana of a byte from A1 to DF. -/
def kana (b : Nat) : Char := .ofNat (0xFF61 + (b - 0xA1))

end Jis

namespace Big

def cells : Array Char := ofRuns 19782 BigTable.runs

/-- The characters of a cell; four cells hold a letter with a mark behind it. -/
def chars (cell : Nat) : List Char :=
  match cell with
  | 1133 => ['Ê', '\u0304']
  | 1135 => ['Ê', '\u030C']
  | 1164 => ['ê', '\u0304']
  | 1166 => ['ê', '\u030C']
  | _ => (cell? cells cell).toList

end Big

end RestShell.Charset
