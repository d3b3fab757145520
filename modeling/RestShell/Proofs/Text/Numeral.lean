import Mathlib.Data.List.Induction
import RestShell.Text.Integer

/-! Decimal integers as they are written. The digits of a number with zeros before them are all the
texts that digits alone make, and reading one gives back its number; so an integer is read from its
sign, any zeros and its digits, and from nothing else. -/

namespace RestShell
namespace Chars

/-- A number in digits, behind any zeros. -/
def padded (zeros n : Nat) : List Char := List.replicate zeros '0' ++ Nat.toDigits 10 n

/-- An integer in digits, behind a sign or none. -/
inductive Numeral : List Char → Int → Prop where
  | plain (zeros n : Nat) : Numeral (padded zeros n) n
  | plus (zeros n : Nat) : Numeral ('+' :: padded zeros n) n
  | minus (zeros n : Nat) : Numeral ('-' :: padded zeros n) (-n)

section Digits
variable {cs : List Char} {c : Char} {n zeros : Nat}

theorem isDecimal_iff : isDecimal c = true ↔ ∃ d < 10, c = Nat.digitChar d := by
  constructor
  · intro h
    have hbounds : 48 ≤ c.toNat ∧ c.toNat ≤ 57 := by
      simp only [isDecimal, Bool.and_eq_true, decide_eq_true_eq] at h
      exact h
    have hchars : ∀ d < 10, Char.ofNat (48 + d) = Nat.digitChar d := by decide
    refine ⟨c.toNat - 48, by omega, ?_⟩
    rw [← hchars _ (by omega), Nat.add_sub_cancel' hbounds.1, Char.ofNat_toNat]
  · rintro ⟨d, hd, rfl⟩
    have hall : ∀ d < 10, isDecimal (Nat.digitChar d) = true := by decide
    exact hall d hd

theorem decimalValue_eq (cs : List Char) : decimalValue cs = Nat.ofDigitChars 10 cs 0 := by
  simp only [decimalValue, Nat.ofDigitChars_eq_foldl, Nat.mul_comm]
  rfl

theorem decimalValue_padded (zeros n : Nat) : decimalValue (padded zeros n) = n := by
  rw [decimalValue_eq, padded, Nat.ofDigitChars_append, Nat.ofDigitChars_replicate_zero,
    Nat.mul_zero, Nat.ofDigitChars_ten_toDigits]

theorem padded_ne_nil (zeros n : Nat) : padded zeros n ≠ [] := by
  simp [padded]

theorem isDecimal_of_mem_padded (h : c ∈ padded zeros n) : isDecimal c = true := by
  rcases List.mem_append.1 h with hzero | hdigit
  · rw [List.eq_of_mem_replicate hzero]
    decide
  · have hd := Nat.isDigit_of_mem_toDigits (by decide) (by decide) hdigit
    simp only [Char.isDigit, Bool.and_eq_true, decide_eq_true_eq] at hd
    simp only [isDecimal, Bool.and_eq_true, decide_eq_true_eq]
    exact hd

/-- One more digit behind a number. -/
theorem exists_padded_concat (zeros n : Nat) {d : Nat} (hd : d < 10) :
    ∃ k, padded zeros n ++ [d.digitChar] = padded k (10 * n + d) := by
  by_cases hn : n = 0
  · refine ⟨zeros + 1, ?_⟩
    simp [hn, padded, List.replicate_succ', Nat.toDigits_of_lt_base hd]
  · refine ⟨zeros, ?_⟩
    rw [padded, padded, ← Nat.toDigits_append_toDigits (by decide) (Nat.pos_of_ne_zero hn) hd,
      Nat.toDigits_of_lt_base hd, List.append_assoc]

/-- Digits alone are the digits of their value, behind zeros. -/
theorem exists_padded (hne : cs ≠ []) (h : ∀ c ∈ cs, isDecimal c = true) :
    ∃ zeros, cs = padded zeros (decimalValue cs) := by
  -- from the end, where one more digit is ten times the value and the digit
  induction cs using List.reverseRecOn with
  | nil => exact absurd rfl hne
  | append_singleton front c ih =>
    obtain ⟨d, hd, rfl⟩ := isDecimal_iff.1 (h c (by simp))
    have hvalue : decimalValue (front ++ [d.digitChar]) = 10 * decimalValue front + d := by
      rw [decimalValue_eq, decimalValue_eq, Nat.ofDigitChars_append,
        Nat.ofDigitChars_cons_digitChar_of_lt_ten hd, Nat.ofDigitChars_nil]
    rw [hvalue]
    by_cases hfront : front = []
    · refine ⟨0, ?_⟩
      simp [hfront, padded, decimalValue, Nat.toDigits_of_lt_base hd]
    · obtain ⟨zeros, hz⟩ := ih hfront fun c hc => h c (by simp [hc])
      obtain ⟨k, hk⟩ := exists_padded_concat zeros (decimalValue front) hd
      exact ⟨k, by rw [← hk, ← hz]⟩

theorem unsigned?_padded (zeros n : Nat) : unsigned? (padded zeros n) = some n := by
  have hall : (padded zeros n).all isDecimal = true :=
    List.all_eq_true.2 fun _ hc => isDecimal_of_mem_padded hc
  simp [unsigned?, padded_ne_nil, hall, decimalValue_padded]

theorem exists_of_unsigned? (h : unsigned? cs = some n) : ∃ zeros, cs = padded zeros n := by
  simp only [unsigned?, Option.ite_none_left_eq_some, Bool.or_eq_true, not_or,
    Bool.not_eq_true, Bool.not_eq_false', List.isEmpty_eq_false_iff, List.all_eq_true,
    Option.some.injEq] at h
  obtain ⟨⟨hne, hall⟩, rfl⟩ := h
  exact exists_padded hne hall

end Digits

section Signs
variable {cs : List Char}

theorem integer?_minus (r : List Char) :
    integer? ('-' :: r) = (unsigned? r).map fun n : Nat => -(n : Int) := by
  cases h : unsigned? r <;> simp [integer?, h]

theorem integer?_plus (r : List Char) :
    integer? ('+' :: r) = (unsigned? r).map fun n : Nat => (n : Int) := by
  cases h : unsigned? r <;> simp [integer?, h]

theorem integer?_unsigned (hminus : cs.head? ≠ some '-') (hplus : cs.head? ≠ some '+') :
    integer? cs = (unsigned? cs).map fun n : Nat => (n : Int) := by
  unfold integer?
  split
  · simp at hminus
  · simp at hplus
  · cases h : unsigned? cs <;> simp

theorem head?_padded {zeros n : Nat} {c : Char} (hc : isDecimal c = false) :
    (padded zeros n).head? ≠ some c := by
  intro h
  rw [isDecimal_of_mem_padded (List.mem_of_mem_head? h)] at hc
  cases hc

/-- An integer is read from its numerals and from no other text. -/
theorem integer?_eq_some_iff {z : Int} : integer? cs = some z ↔ Numeral cs z := by
  constructor
  · intro h
    by_cases hminus : cs.head? = some '-'
    · obtain ⟨r, rfl⟩ := List.head?_eq_some_iff.1 hminus
      obtain ⟨n, hn, rfl⟩ := Option.map_eq_some_iff.1 (integer?_minus r ▸ h)
      obtain ⟨zeros, rfl⟩ := exists_of_unsigned? hn
      exact .minus zeros n
    by_cases hplus : cs.head? = some '+'
    · obtain ⟨r, rfl⟩ := List.head?_eq_some_iff.1 hplus
      obtain ⟨n, hn, rfl⟩ := Option.map_eq_some_iff.1 (integer?_plus r ▸ h)
      obtain ⟨zeros, rfl⟩ := exists_of_unsigned? hn
      exact .plus zeros n
    · obtain ⟨n, hn, rfl⟩ := Option.map_eq_some_iff.1 (integer?_unsigned hminus hplus ▸ h)
      obtain ⟨zeros, rfl⟩ := exists_of_unsigned? hn
      exact .plain zeros n
  · intro h
    cases h with
    | plain zeros n =>
      rw [integer?_unsigned (head?_padded (by decide)) (head?_padded (by decide)),
        unsigned?_padded]
      rfl
    | plus zeros n =>
      rw [integer?_plus, unsigned?_padded]
      rfl
    | minus zeros n =>
      rw [integer?_minus, unsigned?_padded]
      rfl

end Signs

end Chars
end RestShell
