import RestShell.Address.Query

/-! Percent coding. What is encoded has neither a `&` nor a `=` and is decoded to what it was,
whatever follows it. Of any text, what stands before and behind such a separator is decoded on
its own, and no part is decoded to more bytes with the rest behind it than by itself. -/

namespace RestShell

theorem Utf8.encode_append (a b : List Char) : encode (a ++ b) = encode a ++ encode b :=
  List.flatMap_append

namespace Chars

section Encoding

@[simp] theorem percentEncode_nil : percentEncode [] = [] := rfl

theorem percentEncode_append (a b : List Char) :
    percentEncode (a ++ b) = percentEncode a ++ percentEncode b := by
  simp only [percentEncode, Utf8.encode_append, List.flatMap_append]

theorem forall_uint8 {P : UInt8 → Prop} (h : ∀ i : Fin 256, P (.ofNat i)) (b : UInt8) : P b := by
  have hb := h ⟨b.toNat, b.toNat_lt⟩
  rwa [UInt8.ofNat_toNat] at hb

theorem percentByte_ne_nil (b : UInt8) : percentByte b ≠ [] := by
  unfold percentByte
  split <;> simp

theorem mem_upperHex (n : Nat) : upperHex n ∈ "0123456789ABCDEF".toList := by
  have hall : ∀ n < 16, upperHex n ∈ "0123456789ABCDEF".toList := by decide
  have hmod : upperHex n = upperHex (n % 16) := by simp [upperHex]
  rw [hmod]
  exact hall _ (Nat.mod_lt n (by decide))

theorem notMem_percentByte {c : Char} (hc : c = '&' ∨ c = '=') (b : UInt8) : c ∉ percentByte b := by
  have hhex (n : Nat) : c ≠ upperHex n := by
    intro h
    have hmem := mem_upperHex n
    rw [← h] at hmem
    rcases hc with rfl | rfl <;> exact absurd hmem (by decide)
  rw [percentByte]
  split
  · rename_i hplain
    rw [List.mem_singleton]
    intro h
    rw [isPlainByte, ← h] at hplain
    rcases hc with rfl | rfl <;> simp at hplain
  · have hpercent : c ≠ '%' := by rcases hc with rfl | rfl <;> decide
    simp [hpercent, hhex]

/-- What is encoded has no separator of a query. -/
theorem notMem_percentEncode {c : Char} (hc : c = '&' ∨ c = '=') (cs : List Char) :
    c ∉ percentEncode cs := by
  intro h
  obtain ⟨b, -, hb⟩ := List.mem_flatMap.1 h
  exact notMem_percentByte hc b hb

theorem encodeChar_ne_nil (c : Char) : Utf8.encodeChar c ≠ [] := by
  unfold Utf8.encodeChar
  dsimp only
  split
  · simp
  split
  · simp
  split <;> simp

theorem percentEncode_ne_nil {cs : List Char} (h : cs ≠ []) : percentEncode cs ≠ [] := by
  obtain ⟨c, r, rfl⟩ := List.exists_cons_of_ne_nil h
  obtain ⟨b, bs, hb⟩ := List.exists_cons_of_ne_nil (encodeChar_ne_nil c)
  simp [percentEncode, Utf8.encode, hb, percentByte_ne_nil]

end Encoding

section Decoding

/-- A byte that begins no escape stands for itself. -/
theorem percentDecode_cons {b : UInt8} {r : Bytes}
    (h : b = 37 → ∀ c d t, r = c :: d :: t → hexByte? c d = none) :
    percentDecode (b :: r) = b :: percentDecode r := by
  match r with
  | [] => rfl
  | [c] => rfl
  | c :: d :: t =>
    rw [percentDecode]
    split
    · rename_i hb
      rw [h hb c d t rfl, hb]
    · rfl

theorem percentDecode_plain {b : UInt8} (h : b ≠ 37) (r : Bytes) :
    percentDecode (b :: r) = b :: percentDecode r := percentDecode_cons fun hb => absurd hb h

theorem percentDecode_escape {c d x : UInt8} (h : hexByte? c d = some x) (r : Bytes) :
    percentDecode (37 :: c :: d :: r) = x :: percentDecode r := by
  rw [percentDecode, if_pos rfl, h]

/-- An encoded byte stands for itself, or it is an escape for that byte. -/
theorem encode_percentByte (b : UInt8) :
    (b ≠ 37 ∧ Utf8.encode (percentByte b) = [b]) ∨
      ∃ c d, Utf8.encode (percentByte b) = [37, c, d] ∧ hexByte? c d = some b := by
  have hplain : ∀ b : UInt8, isPlainByte b = true → b ≠ 37 ∧ Utf8.encode (percentByte b) = [b] :=
    forall_uint8 (by decide +kernel)
  have hescape : ∀ b : UInt8, isPlainByte b = false →
      Utf8.encode (percentByte b) = [37, .ofNat (upperHex (b.toNat / 16)).toNat,
        .ofNat (upperHex b.toNat).toNat] ∧
      hexByte? (.ofNat (upperHex (b.toNat / 16)).toNat) (.ofNat (upperHex b.toNat).toNat) =
        some b := forall_uint8 (by decide +kernel)
  cases h : isPlainByte b with
  | true => exact .inl (hplain b h)
  | false => exact .inr ⟨_, _, hescape b h⟩

theorem percentDecode_percentByte (b : UInt8) (r : Bytes) :
    percentDecode (Utf8.encode (percentByte b) ++ r) = b :: percentDecode r := by
  rcases encode_percentByte b with ⟨hne, he⟩ | ⟨c, d, he, hx⟩ <;> rw [he]
  · exact percentDecode_plain hne r
  · exact percentDecode_escape hx r

/-- What is encoded is decoded to what it was, whatever follows. -/
theorem percentDecode_percentEncode_append (cs : List Char) (r : Bytes) :
    percentDecode (Utf8.encode (percentEncode cs) ++ r) = Utf8.encode cs ++ percentDecode r := by
  have hbytes (bs : Bytes) : percentDecode (Utf8.encode (bs.flatMap percentByte) ++ r) =
      bs ++ percentDecode r := by
    induction bs with
    | nil => rfl
    | cons b bs ih =>
      rw [List.flatMap_cons, Utf8.encode_append, List.append_assoc, percentDecode_percentByte, ih]
      rfl
  exact hbytes (Utf8.encode cs)

theorem percentDecode_percentEncode (cs : List Char) :
    percentDecode (Utf8.encode (percentEncode cs)) = Utf8.encode cs := by
  have h := percentDecode_percentEncode_append cs []
  rw [List.append_nil] at h
  exact h.trans (List.append_nil _)

end Decoding

section Parts

/-- A byte that is no part of an escape. -/
def Separates (c : UInt8) : Prop :=
  c ≠ 37 ∧ (∀ d, hexByte? c d = none) ∧ ∀ d, hexByte? d c = none

/-- What stands before and behind a separator is decoded on its own. -/
theorem percentDecode_append_cons {c : UInt8} (hc : Separates c) (a r : Bytes) :
    percentDecode (a ++ c :: r) = percentDecode a ++ c :: percentDecode r := by
  obtain ⟨hne, hfirst, hsecond⟩ := hc
  have hown : percentDecode (c :: r) = c :: percentDecode r := percentDecode_plain hne r
  have hbefore (b : UInt8) : percentDecode (b :: c :: r) = b :: c :: percentDecode r := by
    rw [percentDecode_cons, hown]
    rintro - d e t he
    rw [← (List.cons.inj he).1, hfirst]
  fun_induction percentDecode a with
  | case1 => exact hown
  | case2 b => exact hbefore b
  | case3 b b' =>
    rw [List.cons_append, List.cons_append, List.nil_append, percentDecode_cons, hbefore]
    · rfl
    · rintro - d e t he
      simp only [List.cons.injEq] at he
      rw [← he.2.1, hsecond]
  | case4 d e t x hx ih =>
    rw [List.cons_append, List.cons_append, List.cons_append, percentDecode_escape hx, ih]
    rfl
  | case5 d e t hx ih =>
    rw [List.cons_append, percentDecode_cons, ih]
    · rfl
    · rintro - d' e' t' he
      simp only [List.cons_append, List.cons.injEq] at he
      rw [← he.1, ← he.2.1, hx]
  | case6 b d e t hb ih =>
    rw [List.cons_append, percentDecode_plain hb, ih]
    rfl

/-- A byte that is no hexadecimal digit is one of no escape. -/
theorem hexByte?_eq_none {c : UInt8} (h : hexByte? c c = none) (d : UInt8) :
    hexByte? c d = none ∧ hexByte? d c = none := by
  simp only [hexByte?, Option.bind_eq_bind, Option.bind_eq_none_iff] at h ⊢
  refine ⟨fun x hx => absurd (h x hx x hx) nofun, fun x _ y hy => absurd (h y hy y hy) nofun⟩

theorem separates_of_digitless {c : UInt8} (hne : c ≠ 37) (h : hexByte? c c = none) :
    Separates c :=
  ⟨hne, fun d => (hexByte?_eq_none h d).1, fun d => (hexByte?_eq_none h d).2⟩

theorem separates_ampersand : Separates 38 := separates_of_digitless (by decide) rfl

theorem separates_equals : Separates 61 := separates_of_digitless (by decide) rfl

theorem hexByte?_ne {c d x : UInt8} (h : hexByte? c d = some x) : c ≠ 37 ∧ d ≠ 37 := by
  have hpercent : hexByte? 37 37 = none := rfl
  constructor <;> rintro rfl
  · rw [(hexByte?_eq_none hpercent d).1] at h
    cases h
  · rw [(hexByte?_eq_none hpercent c).2] at h
    cases h

theorem length_percentDecode_cons_le (b : UInt8) (r : Bytes) :
    (percentDecode (b :: r)).length ≤ (percentDecode r).length + 1 := by
  by_cases h : ∃ c d x t, b = 37 ∧ r = c :: d :: t ∧ hexByte? c d = some x
  · obtain ⟨c, d, x, t, rfl, rfl, hx⟩ := h
    obtain ⟨hc, hd⟩ := hexByte?_ne hx
    rw [percentDecode_escape hx, percentDecode_plain hc, percentDecode_plain hd]
    simp only [List.length_cons]
    omega
  · rw [percentDecode_cons]
    · exact Nat.le_refl _
    · intro hb c d t hr
      cases hx : hexByte? c d with
      | none => rfl
      | some x => exact absurd ⟨c, d, x, t, hb, hr, hx⟩ h

/-- Bytes are decoded together to no more than on their own. -/
theorem length_percentDecode_append_le (a r : Bytes) :
    (percentDecode (a ++ r)).length ≤ (percentDecode a).length + (percentDecode r).length := by
  fun_induction percentDecode a with
  | case1 => simp
  | case2 b =>
    have h := length_percentDecode_cons_le b r
    simp only [List.cons_append, List.nil_append, List.length_cons, List.length_nil]
    omega
  | case3 b c =>
    have h₁ := length_percentDecode_cons_le b (c :: r)
    have h₂ := length_percentDecode_cons_le c r
    simp only [List.cons_append, List.nil_append, List.length_cons, List.length_nil]
    omega
  | case4 c d t x hx ih =>
    rw [List.cons_append, List.cons_append, List.cons_append, percentDecode_escape hx]
    simp only [List.length_cons]
    omega
  | case5 c d t hx ih =>
    have h := length_percentDecode_cons_le 37 (c :: d :: t ++ r)
    simp only [List.cons_append, List.length_cons] at ih h ⊢
    omega
  | case6 b c d t hb ih =>
    have h := length_percentDecode_cons_le b (c :: d :: t ++ r)
    simp only [List.cons_append, List.length_cons] at ih h ⊢
    omega

end Parts
end Chars
end RestShell
