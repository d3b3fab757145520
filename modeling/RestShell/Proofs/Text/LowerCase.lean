import RestShell.Proofs.Text.UpperCase

/-! Lower case is final. No row of the table covers a code point that a row leads to, so a text in
lower case has nothing left to lower; and a text that is not empty has a lower case that is not. -/

namespace RestShell
namespace Chars
open Text

section Rows
variable {q r : Nat × Nat × Nat × Int} {n : Nat}

/-- The code points that a row moves. -/
def Covers (r : Nat × Nat × Nat × Int) (n : Nat) : Prop :=
  r.1 ≤ n ∧ n ≤ r.2.1 ∧ (n - r.1) % r.2.2.1 = 0

/-- A row covers nothing from `lo` to `hi`: it lies beyond, or both go by twos and miss. -/
def missesRange (q : Nat × Nat × Nat × Int) (lo hi step : Nat) : Bool :=
  Nat.blt hi q.1 || Nat.blt q.2.1 lo ||
    (q.2.2.1.beq 2 && (step.beq 2 || lo.beq hi) && ((lo + q.1) % 2).beq 1)

/-- What the row leads to is no ASCII capital and not `U+0130`, and no row covers any of it. -/
def isFinalRow (r : Nat × Nat × Nat × Int) : Bool :=
  let lo := (r.1 + r.2.2.2).toNat
  let hi := (r.2.1 + r.2.2.2).toNat
  Nat.ble 97 lo && (Nat.ble hi 122 || Nat.ble 0x80 lo) && (Nat.blt hi 0x130 || Nat.blt 0x130 lo) &&
    CaseTable.lower.all fun q => missesRange q lo hi r.2.2.1

theorem isFinalRow_of_mem : ∀ r ∈ CaseTable.lower, isFinalRow r = true := by
  have hall : CaseTable.lower.all isFinalRow = true := by decide +kernel
  exact List.all_eq_true.1 hall

theorem not_covers_of_misses (hn : Covers r n) (hpos : 0 < (r.1 + r.2.2.2).toNat)
    (hq : missesRange q (r.1 + r.2.2.2).toNat (r.2.1 + r.2.2.2).toNat r.2.2.1 = true) :
    ¬ Covers q (n + r.2.2.2).toNat := by
  obtain ⟨hfirst, hlast, hstep⟩ := hn
  rintro ⟨hfirst', hlast', hstep'⟩
  simp only [missesRange, Bool.or_eq_true, Bool.and_eq_true, Nat.blt_eq, Nat.beq_eq] at hq
  rcases hq with (hbeyond | hbefore) | ⟨⟨htwo, hstride⟩, hodd⟩
  · omega
  · omega
  · rw [htwo] at hstep'
    rcases hstride with hstride | hstride
    · rw [hstride] at hstep
      omega
    · omega

end Rows

/-- Lower case leaves the character as it is. -/
def Settled (c : Char) : Prop := lowerChar c = [c] ∧ c ≠ 'Σ'

theorem settled_ascii {c : Char} (h : c.toNat < 0x80) : Settled (asciiLower c) := by
  have hsmall := toNat_asciiLower_lt h
  constructor
  · rw [lowerChar, if_pos hsmall]
    rcases asciiLower_cases (asciiLower c) with ⟨hfirst, hlast, -⟩ | ⟨-, hsame⟩
    · rcases asciiLower_cases c with ⟨hc, -, hmoved⟩ | ⟨hc, hkept⟩
      · omega
      · rw [hkept] at hfirst hlast
        omega
    · rw [hsame]
  · intro hsigma
    rw [hsigma] at hsmall
    exact absurd hsmall (by decide)

/-- What the capitals become that no row moves. -/
theorem settled_special {d : Char} (h : d ∈ ['i', '\u0307', 'ς', 'σ']) : Settled d := by
  have hall : ['i', '\u0307', 'ς', 'σ'].all (fun d => lowerChar d == [d] && d != 'Σ') = true := by
    decide +kernel
  have hd := List.all_eq_true.1 hall d h
  simp only [Bool.and_eq_true, beq_iff_eq, bne_iff_ne] at hd
  exact hd

theorem shifted_of_not_covered {rows : List (Nat × Nat × Nat × Int)} {c : Char}
    (h : ∀ q ∈ rows, ¬ Covers q c.toNat) : shifted rows c = c := by
  have hnone : rows.find? (fun r => r.1 ≤ c.toNat && c.toNat ≤ r.2.1 &&
      (c.toNat - r.1) % r.2.2.1 == 0) = none := by
    rw [List.find?_eq_none]
    intro q hq hc
    simp only [Bool.and_eq_true, decide_eq_true_eq, beq_iff_eq] at hc
    exact h q hq ⟨hc.1.1, hc.1.2, hc.2⟩
  rw [shifted, hnone]

/-- A character that no row covers, and that is neither an ASCII capital nor `U+0130`. -/
theorem settled_of_not_covered {c : Char} (hrow : ∀ q ∈ CaseTable.lower, ¬ Covers q c.toNat)
    (hcapital : 0x80 ≤ c.toNat ∨ 97 ≤ c.toNat ∧ c.toNat ≤ 122) (hdot : c.toNat ≠ 0x130) :
    Settled c := by
  constructor
  · rw [lowerChar]
    split
    · rcases asciiLower_cases c with ⟨hfirst, hlast, -⟩ | ⟨-, hc⟩
      · omega
      · rw [hc]
    · rw [if_neg fun h => hdot (by rw [h]; rfl), shifted_of_not_covered hrow]
  · rintro rfl
    exact hrow (0x3A3, 0x3AB, 1, 32) (by decide) (by unfold Covers; decide)

theorem settled_shifted {c : Char} (h : 0x80 ≤ c.toNat) (hdot : c ≠ '\u0130') :
    Settled (shifted CaseTable.lower c) := by
  by_cases hrow : ∃ q ∈ CaseTable.lower, Covers q c.toNat
  · rw [shifted]
    split
    · rename_i r hr
      have hcovers : Covers r c.toNat := by
        have hc := List.find?_some hr
        simp only [Bool.and_eq_true, decide_eq_true_eq, beq_iff_eq] at hc
        exact ⟨hc.1.1, hc.1.2, hc.2⟩
      have hfinal := isFinalRow_of_mem r (List.mem_of_find?_eq_some hr)
      simp only [isFinalRow, Bool.and_eq_true, Bool.or_eq_true, Nat.ble_eq, Nat.blt_eq,
        List.all_eq_true] at hfinal
      obtain ⟨⟨⟨hlo, hcapital⟩, hnodot⟩, hmisses⟩ := hfinal
      by_cases hvalid : Nat.isValidChar (c.toNat + r.2.2.2).toNat
      · have hn : (Char.ofNat (c.toNat + r.2.2.2).toNat).toNat = (c.toNat + r.2.2.2).toNat :=
          toNat_ofNat_of_valid hvalid
        obtain ⟨hfirst, hlast, -⟩ := id hcovers
        refine settled_of_not_covered ?_ ?_ ?_
        · intro q hq
          rw [hn]
          exact not_covers_of_misses hcovers (by omega) (hmisses q hq)
        · rw [hn]
          omega
        · rw [hn]
          omega
      · rw [Char.ofNat, dif_neg hvalid]
        exact ⟨by decide, by decide⟩
    · rename_i hnone
      obtain ⟨q, hq, hc⟩ := hrow
      have := List.find?_eq_none.1 hnone q hq
      simp only [Bool.and_eq_true, decide_eq_true_eq, beq_iff_eq] at this
      exact absurd ⟨⟨hc.1, hc.2.1⟩, hc.2.2⟩ this
  · have hnot : ∀ q ∈ CaseTable.lower, ¬ Covers q c.toNat := fun q hq hc => hrow ⟨q, hq, hc⟩
    rw [shifted_of_not_covered hnot]
    exact settled_of_not_covered hnot (.inl h) fun hn => hdot (Char.toNat_inj.1 hn)

theorem settled_lowerChar {c d : Char} (h : d ∈ lowerChar c) : Settled d := by
  rw [lowerChar] at h
  split at h
  · rename_i hc
    rw [List.mem_singleton.1 h]
    exact settled_ascii hc
  · rename_i hc
    split at h
    · simp only [List.mem_cons, List.not_mem_nil, or_false] at h
      rcases h with rfl | rfl <;> exact settled_special (by simp)
    · rename_i hdot
      rw [List.mem_singleton.1 h]
      exact settled_shifted (by omega) hdot

theorem settled_lowerAfter {before cs : List Char} {d : Char} (h : d ∈ lowerAfter before cs) :
    Settled d := by
  induction cs generalizing before with
  | nil => cases h
  | cons c r ih =>
    rw [lowerAfter] at h
    rcases List.mem_append.1 h with h | h
    · split at h
      · split at h <;> rw [List.mem_singleton.1 h] <;> exact settled_special (by simp)
      · exact settled_lowerChar h
    · exact ih h

theorem lowerAfter_settled {cs : List Char} (h : ∀ c ∈ cs, Settled c) (before : List Char) :
    lowerAfter before cs = cs := by
  induction cs generalizing before with
  | nil => rfl
  | cons c r ih =>
    obtain ⟨⟨hlower, hsigma⟩, hr⟩ := List.forall_mem_cons.1 h
    rw [lowerAfter, if_neg hsigma, hlower, ih hr]
    rfl

theorem lower_lower (cs : List Char) : lower (lower cs) = lower cs :=
  lowerAfter_settled (fun _ hd => settled_lowerAfter hd) []

theorem lowerChar_ne_nil (c : Char) : lowerChar c ≠ [] := by
  rw [lowerChar]
  split
  · exact List.cons_ne_nil _ _
  · split <;> exact List.cons_ne_nil _ _

theorem lower_ne_nil {cs : List Char} (h : cs ≠ []) : lower cs ≠ [] := by
  obtain ⟨c, r, rfl⟩ := List.exists_cons_of_ne_nil h
  rw [lower, lowerAfter]
  refine List.append_ne_nil_of_left_ne_nil ?_ _
  split
  · split <;> exact List.cons_ne_nil _ _
  · exact lowerChar_ne_nil c

/-- Below the capitals lower case is the identity, and nothing else comes to lie there. -/
theorem eq_of_mem_lowerChar {c d : Char} (h : d ∈ lowerChar c) (hpos : 0 < d.toNat)
    (hd : d.toNat < 65) : d = c := by
  rw [lowerChar] at h
  split at h
  · have hd' := List.mem_singleton.1 h
    rcases asciiLower_cases c with ⟨hfirst, -, hc⟩ | ⟨-, hc⟩
    · rw [← hd'] at hc
      omega
    · exact hd'.trans hc
  · split at h
    · simp only [List.mem_cons, List.not_mem_nil, or_false] at h
      rcases h with rfl | rfl <;> exact absurd hd (by decide)
    · rw [List.mem_singleton, shifted] at h
      split at h
      · rename_i r hr
        have hfinal := isFinalRow_of_mem r (List.mem_of_find?_eq_some hr)
        have hcovers := List.find?_some hr
        simp only [isFinalRow, Bool.and_eq_true, Nat.ble_eq] at hfinal
        simp only [Bool.and_eq_true, decide_eq_true_eq] at hcovers
        have hlo : 97 ≤ (r.1 + r.2.2.2).toNat := hfinal.1.1.1
        by_cases hvalid : Nat.isValidChar (c.toNat + r.2.2.2).toNat
        · have hn : d.toNat = (c.toNat + r.2.2.2).toNat := by
            rw [h, toNat_ofNat_of_valid hvalid]
          omega
        · rw [h, Char.ofNat, dif_neg hvalid] at hpos
          exact absurd hpos (by decide)
      · exact h

theorem mem_of_mem_lowerAfter {before cs : List Char} {d : Char} (h : d ∈ lowerAfter before cs)
    (hpos : 0 < d.toNat) (hd : d.toNat < 65) : d ∈ cs := by
  induction cs generalizing before with
  | nil => cases h
  | cons c r ih =>
    rw [lowerAfter] at h
    rcases List.mem_append.1 h with h | h
    · split at h
      · split at h <;> rw [List.mem_singleton.1 h] at hd <;> exact absurd hd (by decide)
      · rw [eq_of_mem_lowerChar h hpos hd]
        exact List.mem_cons_self
    · exact List.mem_cons_of_mem c (ih h)

end Chars

namespace Text

theorem lower_lower (s : String) : lower (lower s) = lower s := by
  rw [lower, lower, String.toList_ofList, Chars.lower_lower]

theorem lower_ne_empty {s : String} (h : s ≠ "") : lower s ≠ "" := by
  intro he
  rw [lower, ← String.toList_inj, String.toList_ofList] at he
  exact Chars.lower_ne_nil (fun hs => h (String.toList_inj.1 hs)) he

end Text
end RestShell
