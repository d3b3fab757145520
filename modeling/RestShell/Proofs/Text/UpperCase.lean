import Mathlib.Data.List.Basic
import RestShell.Text.Case

/-! Upper case against ASCII case. A word of most ASCII capitals is the upper case of just
the texts that are equal to it but for ASCII case; the few capitals that other letters turn
into as well are set apart. -/

namespace RestShell
namespace Chars

/-- Capitals that no letter beyond ASCII turns into, alone or with others of them. -/
def isSoleCapital (c : Char) : Bool := 'A' ≤ c && c ≤ 'Z' && !(['F', 'I', 'S'].contains c)

theorem le_iff_toNat_le {a b : Char} : a ≤ b ↔ a.toNat ≤ b.toNat := by
  rw [Char.le_def, UInt32.le_iff_toNat_le]
  rfl

theorem toNat_of_isSoleCapital {c : Char} (h : isSoleCapital c = true) :
    65 ≤ c.toNat ∧ c.toNat ≤ 90 := by
  simp only [isSoleCapital, Bool.and_eq_true, decide_eq_true_eq, le_iff_toNat_le] at h
  exact h.1

theorem toNat_ofNat_of_valid {n : Nat} (h : n.isValidChar) : (Char.ofNat n).toNat = n := by
  rw [Char.ofNat, dif_pos h]
  rfl

/-- Every sequence of the table has a character that is no such capital. -/
theorem sequences_notSole :
    ∀ e ∈ Text.CaseTable.upperSequences, ∃ n ∈ e.2, isSoleCapital (.ofNat n) = false := by
  decide +kernel

/-- The rows of the table lead beyond ASCII, but for two that lead to `I` and `S`. -/
theorem rows_notSole : ∀ r ∈ Text.CaseTable.upper, (0x80 : Int) ≤ r.1 + r.2.2.2 ∨
    (r.1 = r.2.1 ∧ isSoleCapital (.ofNat ((r.1 : Int) + r.2.2.2).toNat) = false) := by
  decide +kernel

theorem isSoleCapital_ofNat {n : Nat} (h : 0x80 ≤ n) : isSoleCapital (.ofNat n) = false := by
  by_cases hv : n.isValidChar
  · by_contra hs
    have hn : (Char.ofNat n).toNat = n := toNat_ofNat_of_valid hv
    have hc := toNat_of_isSoleCapital (by simpa using hs)
    omega
  · rw [Char.ofNat, dif_neg hv]
    decide

theorem isSoleCapital_shifted {c : Char} (h : 0x80 ≤ c.toNat) :
    isSoleCapital (shifted Text.CaseTable.upper c) = false := by
  unfold shifted
  split
  · rename_i r hr
    have hc := List.find?_some hr
    simp only [Bool.and_eq_true, decide_eq_true_eq] at hc
    rcases rows_notSole r (List.mem_of_find?_eq_some hr) with hrow | ⟨hrow, hs⟩
    · exact isSoleCapital_ofNat (by omega)
    · rwa [show c.toNat = r.1 by omega]
  · have hc := isSoleCapital_ofNat h
    rwa [Char.ofNat_toNat] at hc

theorem exists_notSole {c : Char} (h : 0x80 ≤ c.toNat) :
    ∃ x ∈ upperChar c, isSoleCapital x = false := by
  rw [upperChar, if_neg (by omega)]
  split
  · rename_i ns hl
    obtain ⟨before, after, he, -⟩ := List.lookup_eq_some_iff.1 hl
    obtain ⟨n, hn, hs⟩ := sequences_notSole (c.toNat, ns) (by simp [he])
    exact ⟨.ofNat n, List.mem_map_of_mem hn, hs⟩
  · exact ⟨_, List.mem_singleton_self _, isSoleCapital_shifted h⟩

/-- ASCII lower case moves the ASCII capitals by 32 and nothing else. -/
theorem asciiLower_cases (c : Char) :
    (65 ≤ c.toNat ∧ c.toNat ≤ 90 ∧ (asciiLower c).toNat = c.toNat + 32) ∨
      ((c.toNat < 65 ∨ 90 < c.toNat) ∧ asciiLower c = c) := by
  have hA : 'A'.toNat = 65 := rfl
  have hZ : 'Z'.toNat = 90 := rfl
  unfold asciiLower
  split
  · rename_i h
    rw [Bool.and_eq_true, decide_eq_true_eq, decide_eq_true_eq, le_iff_toNat_le,
      le_iff_toNat_le] at h
    have hvalid : Nat.isValidChar (c.toNat + 32) := .inl (by omega)
    exact .inl ⟨by omega, by omega, toNat_ofNat_of_valid hvalid⟩
  · rename_i h
    rw [Bool.and_eq_true, decide_eq_true_eq, decide_eq_true_eq, le_iff_toNat_le,
      le_iff_toNat_le] at h
    exact .inr ⟨by omega, rfl⟩

/-- ASCII upper case moves the small ASCII letters by 32 and nothing else. -/
theorem asciiUpper_cases (c : Char) :
    (97 ≤ c.toNat ∧ c.toNat ≤ 122 ∧ (asciiUpper c).toNat = c.toNat - 32) ∨
      ((c.toNat < 97 ∨ 122 < c.toNat) ∧ asciiUpper c = c) := by
  have ha : 'a'.toNat = 97 := rfl
  have hz : 'z'.toNat = 122 := rfl
  unfold asciiUpper
  split
  · rename_i h
    rw [Bool.and_eq_true, decide_eq_true_eq, decide_eq_true_eq, le_iff_toNat_le,
      le_iff_toNat_le] at h
    have hvalid : Nat.isValidChar (c.toNat - 32) := .inl (by omega)
    exact .inl ⟨by omega, by omega, toNat_ofNat_of_valid hvalid⟩
  · rename_i h
    rw [Bool.and_eq_true, decide_eq_true_eq, decide_eq_true_eq, le_iff_toNat_le,
      le_iff_toNat_le] at h
    exact .inr ⟨by omega, rfl⟩

/-- In ASCII the upper case is such a capital just when the lower case is that of it. -/
theorem asciiUpper_eq_iff {c x : Char} (hc : c.toNat < 0x80) (hx : isSoleCapital x = true) :
    asciiUpper c = x ↔ asciiLower c = asciiLower x := by
  have hcapital := toNat_of_isSoleCapital hx
  rw [← Char.toNat_inj, ← Char.toNat_inj]
  rcases asciiLower_cases x with ⟨-, -, hx'⟩ | ⟨hx', -⟩
  · rcases asciiUpper_cases c with ⟨hu, hu', hupper⟩ | ⟨hu, hupper⟩ <;>
      rcases asciiLower_cases c with ⟨hl, hl', hlower⟩ | ⟨hl, hlower⟩ <;>
      rw [hupper, hlower, hx'] <;> omega
  · omega

theorem asciiLower_of_le {c : Char} (hc : 0x80 ≤ c.toNat) : asciiLower c = c := by
  rcases asciiLower_cases c with ⟨-, hlast, -⟩ | ⟨-, h⟩
  · omega
  · exact h

theorem toNat_asciiLower_lt {c : Char} (hc : c.toNat < 0x80) : (asciiLower c).toNat < 0x80 := by
  rcases asciiLower_cases c with ⟨-, hlast, h⟩ | ⟨-, h⟩
  · omega
  · rwa [h]

/-- A word of such capitals is the upper case of the texts equal to it but for ASCII case. -/
theorem upper_eq_iff {w : List Char} (hw : ∀ x ∈ w, isSoleCapital x = true) (cs : List Char) :
    upper cs = w ↔ cs.map asciiLower = w.map asciiLower := by
  induction cs generalizing w with
  | nil => cases w <;> simp [upper]
  | cons c r ih =>
    have hcons : upper (c :: r) = upperChar c ++ upper r := List.flatMap_cons
    rw [hcons]
    by_cases hc : c.toNat < 0x80
    · have hu : upperChar c = [asciiUpper c] := if_pos hc
      cases w with
      | nil => simp [hu]
      | cons x t =>
        have hx := asciiUpper_eq_iff hc (hw x (by simp))
        have ht := ih (w := t) fun y hy => hw y (List.mem_cons_of_mem x hy)
        simp [hu, hx, ht]
    · -- beyond ASCII neither case leads to the word
      obtain ⟨y, hy, hs⟩ := exists_notSole (c := c) (by omega)
      constructor
      · intro h
        rw [hw y (by rw [← h]; simp [hy])] at hs
        cases hs
      · intro h
        cases w with
        | nil => simp at h
        | cons x t =>
          have hcapital := toNat_of_isSoleCapital (hw x (by simp))
          have hx : (asciiLower x).toNat < 0x80 := toNat_asciiLower_lt (by omega)
          rw [List.map_cons, List.map_cons, List.cons.injEq, asciiLower_of_le (by omega)] at h
          rw [← h.1] at hx
          omega

end Chars

theorem Text.upper_eq_iff {w : String} (hw : w.toList.all Chars.isSoleCapital = true) (s : String) :
    Text.upper s = w ↔ Text.sameName s w = true := by
  have h := Chars.upper_eq_iff (List.all_eq_true.1 hw) s.toList
  rw [Text.sameName, Text.asciiLower, Text.asciiLower, beq_iff_eq, String.ofList_inj, ← h,
    Text.upper]
  constructor
  · intro he
    rw [← he, String.toList_ofList]
  · intro he
    rw [he, String.ofList_toList]

end RestShell
