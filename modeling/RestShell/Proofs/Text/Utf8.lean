import RestShell.Text.Utf8

/-! UTF-8 read back. The machine that decodes comes to rest behind every encoded character and has
written that character, so what is encoded is decoded to what it was and holds no fault. -/

namespace RestShell.Utf8

section Machine

variable {n : Nat} (r : Bytes)

theorem toNat_ofNat (h : n < 256) : (UInt8.ofNat n).toNat = n := UInt8.toNat_ofNat_of_lt' h

theorem pieces_one (h : n < 0x80) :
    pieces .idle (.ofNat n :: r) = some (.ofNat n) :: pieces .idle r := by
  simp [pieces, feed, start, toNat_ofNat (show n < 256 by omega), h]

theorem pieces_two (h : 0xC2 ≤ n ∧ n ≤ 0xDF) :
    pieces .idle (.ofNat n :: r) = pieces (.inside (n - 0xC0) 1 0x80 0xBF) r := by
  simp [pieces, feed, start, toNat_ofNat (show n < 256 by omega), h,
    show ¬ n < 0x80 by omega]

theorem pieces_three (h : 0xE0 ≤ n ∧ n ≤ 0xEF) :
    pieces .idle (.ofNat n :: r) = pieces (.inside (n - 0xE0) 2
      (if n = 0xE0 then 0xA0 else 0x80) (if n = 0xED then 0x9F else 0xBF)) r := by
  simp [pieces, feed, start, toNat_ofNat (show n < 256 by omega), h,
    show ¬ n < 0x80 by omega, show ¬ n ≤ 0xDF by omega]

theorem pieces_four (h : 0xF0 ≤ n ∧ n ≤ 0xF4) :
    pieces .idle (.ofNat n :: r) = pieces (.inside (n - 0xF0) 3
      (if n = 0xF0 then 0x90 else 0x80) (if n = 0xF4 then 0x8F else 0xBF)) r := by
  simp [pieces, feed, start, toNat_ofNat (show n < 256 by omega), h,
    show ¬ n < 0x80 by omega, show ¬ n ≤ 0xDF by omega, show ¬ n ≤ 0xEF by omega]

variable {value low high : Nat}

/-- The last byte of a sequence gives its character. -/
theorem pieces_last (h : low ≤ n ∧ n ≤ high) (hn : n < 256) :
    pieces (.inside value 1 low high) (.ofNat n :: r) =
      some (.ofNat (value * 64 + n % 64)) :: pieces .idle r := by
  simp [pieces, feed, toNat_ofNat hn, h]

theorem pieces_more {need : Nat} (h : low ≤ n ∧ n ≤ high) (hn : n < 256) :
    pieces (.inside value (need + 2) low high) (.ofNat n :: r) =
      pieces (.inside (value * 64 + n % 64) (need + 1) 0x80 0xBF) r := by
  simp [pieces, feed, toNat_ofNat hn, h]

end Machine

section RoundTrip

theorem toNat_valid (c : Char) : c.toNat < 0xD800 ∨ 0xDFFF < c.toNat ∧ c.toNat < 0x110000 :=
  c.valid

/-- Behind an encoded character the machine is at rest and has written it. -/
theorem pieces_encodeChar (c : Char) (r : Bytes) :
    pieces .idle (encodeChar c ++ r) = some c :: pieces .idle r := by
  have hvalid := toNat_valid c
  have hchar {m : Nat} (h : m = c.toNat) : Char.ofNat m = c := by rw [h, Char.ofNat_toNat]
  unfold encodeChar
  dsimp only
  split
  · rename_i hone
    rw [List.singleton_append, pieces_one r hone, hchar rfl]
  split
  · rw [List.cons_append, List.singleton_append, pieces_two _ (by omega),
      pieces_last _ (by omega) (by omega), hchar (by omega)]
  split
  · rw [List.cons_append, List.cons_append, List.singleton_append, pieces_three _ (by omega),
      pieces_more _ (by constructor <;> split <;> omega) (by omega),
      pieces_last _ (by omega) (by omega), hchar (by omega)]
  · rw [List.cons_append, List.cons_append, List.cons_append, List.singleton_append,
      pieces_four _ (by omega), pieces_more _ (by constructor <;> split <;> omega) (by omega),
      pieces_more _ (by omega) (by omega), pieces_last _ (by omega) (by omega), hchar (by omega)]

theorem pieces_encode (cs : List Char) : pieces .idle (encode cs) = cs.map some := by
  induction cs with
  | nil => rfl
  | cons c r ih =>
    rw [encode, List.flatMap_cons, pieces_encodeChar, List.map_cons, ← ih]
    rfl

/-- What is encoded is decoded to what it was. -/
theorem decodeLossy_encode (cs : List Char) : decodeLossy (encode cs) = cs := by
  rw [decodeLossy, pieces_encode, List.map_map]
  exact List.map_id cs

end RoundTrip
end RestShell.Utf8
