import RestShell.Proofs.Text.Pieces
import RestShell.Text.Quoted

/-! Quoted texts. What a character is written as tells the character and where it ends: a letter
behind a backslash stands for one character only, a number ends at its brace, and what has no
backslash is the character itself. So different texts are quoted differently. -/

namespace RestShell

namespace Chars

section Hexadecimal

theorem digitChar_injOn {m n : Nat} (hm : m < 16) (hn : n < 16)
    (h : m.digitChar = n.digitChar) : m = n := by
  have hall : ∀ i : Fin 16, ∀ j : Fin 16, i.val.digitChar = j.val.digitChar → i = j := by decide
  exact congrArg Fin.val (hall ⟨m, hm⟩ ⟨n, hn⟩ h)

theorem brace_notMem_digits (n : Nat) : '\x7d' ∉ Nat.toDigits 16 n := by
  have hdigit : ∀ i : Fin 16, '\x7d' ≠ i.val.digitChar := by decide
  induction n using Nat.strongRecOn with
  | ind n ih =>
    rw [Nat.toDigits_eq_if (by decide)]
    split
    · rename_i hn
      rw [List.mem_singleton]
      exact hdigit ⟨n, hn⟩
    · rename_i hn
      rw [List.mem_append, List.mem_singleton]
      rintro (hmem | hlast)
      · exact ih (n / 16) (by omega) hmem
      · exact hdigit ⟨n % 16, by omega⟩ hlast

theorem digits_injective {m n : Nat} (h : Nat.toDigits 16 m = Nat.toDigits 16 n) : m = n := by
  induction m using Nat.strongRecOn generalizing n with
  | ind m ih =>
    rw [Nat.toDigits_eq_if (n := m) (by decide), Nat.toDigits_eq_if (n := n) (by decide)] at h
    have hne (k : Nat) : Nat.toDigits 16 k ≠ [] := Nat.toDigits_ne_nil
    split at h <;> split at h <;> rename_i hm hn
    · exact digitChar_injOn hm hn (List.cons.inj h).1
    · have hlength := congrArg List.length h
      have hpos := List.length_pos_iff.2 (hne (n / 16))
      simp at hlength
    · have hlength := congrArg List.length h
      have hpos := List.length_pos_iff.2 (hne (m / 16))
      simp at hlength
    · obtain ⟨hrest, hlast⟩ := List.append_inj' h rfl
      have hquotient : m / 16 = n / 16 := ih (m / 16) (by omega) hrest
      have hremainder : m % 16 = n % 16 :=
        digitChar_injOn (by omega) (by omega) (List.cons.inj hlast).1
      omega

end Hexadecimal

section Escapes

/-- The characters that are written as a letter behind a backslash. -/
def escapes : List (Char × Char) :=
  [('"', '"'), ('\\', '\\'), ('\x00', '0'), ('\t', 't'), ('\n', 'n'), ('\r', 'r')]

/-- What a character may be written as. -/
inductive Escaped (c : Char) : List Char → Prop where
  | letter {l : Char} : (c, l) ∈ escapes → Escaped c ['\\', l]
  | number : Escaped c ('\\' :: 'u' :: '\x7b' :: (Nat.toDigits 16 c.toNat ++ ['\x7d']))
  | plain : c ≠ '\\' → Escaped c [c]

theorem escaped_escapeVisible (c : Char) : Escaped c (escapeVisible c) := by
  unfold escapeVisible
  split
  · rename_i h
    exact .letter (by rw [h]; decide)
  split
  · rename_i h
    exact .letter (by rw [h]; decide)
  rename_i hbackslash
  split
  · rename_i h
    exact .letter (by rw [h]; decide)
  split
  · rename_i h
    exact .letter (by rw [h]; decide)
  split
  · rename_i h
    exact .letter (by rw [h]; decide)
  split
  · rename_i h
    exact .letter (by rw [h]; decide)
  split
  · exact .number
  · exact .plain hbackslash

theorem Escaped.ne_nil {c : Char} {x : List Char} (h : Escaped c x) : x ≠ [] := by
  cases h <;> simp

/-- A text that begins with a character as it is written tells the character and the rest. -/
theorem Escaped.cancel {c d : Char} {x y r t : List Char} (hx : Escaped c x) (hy : Escaped d y)
    (h : x ++ r = y ++ t) : c = d ∧ r = t := by
  have hletters : ∀ p ∈ escapes, ∀ q ∈ escapes, p.2 = q.2 → p.1 = q.1 := by decide
  have hnumber : ∀ p ∈ escapes, p.2 ≠ 'u' := by decide
  cases hx with
  | letter hc =>
    cases hy with
    | letter hd =>
      simp only [List.cons_append, List.nil_append, List.cons.injEq, true_and] at h
      exact ⟨hletters _ hc _ hd h.1, h.2⟩
    | number =>
      simp only [List.cons_append, List.nil_append, List.cons.injEq, true_and] at h
      exact absurd h.1 (hnumber _ hc)
    | plain hd =>
      simp only [List.cons_append, List.nil_append, List.cons.injEq] at h
      exact absurd h.1.symm hd
  | number =>
    cases hy with
    | letter hd =>
      simp only [List.cons_append, List.nil_append, List.cons.injEq, true_and] at h
      exact absurd h.1.symm (hnumber _ hd)
    | number =>
      simp only [List.cons_append, List.cons.injEq, true_and, List.append_assoc,
        List.nil_append] at h
      obtain ⟨hdigits, hrest⟩ :=
        append_cons_cancel (brace_notMem_digits _) (brace_notMem_digits _) h
      exact ⟨Char.toNat_inj.1 (digits_injective hdigits), hrest⟩
    | plain hd =>
      simp only [List.cons_append, List.nil_append, List.cons.injEq] at h
      exact absurd h.1.symm hd
  | plain hc =>
    cases hy with
    | letter hd =>
      simp only [List.cons_append, List.nil_append, List.cons.injEq] at h
      exact absurd h.1 hc
    | number =>
      simp only [List.cons_append, List.nil_append, List.cons.injEq] at h
      exact absurd h.1 hc
    | plain hd =>
      simpa using h

theorem flatMap_escapeVisible_injective : (List.flatMap escapeVisible).Injective := by
  intro cs ds h
  have hne {c : Char} (r : List Char) : escapeVisible c ++ r ≠ [] :=
    List.append_ne_nil_of_left_ne_nil (escaped_escapeVisible c).ne_nil r
  induction cs generalizing ds with
  | nil =>
    cases ds with
    | nil => rfl
    | cons d r =>
      rw [List.flatMap_nil, List.flatMap_cons] at h
      exact absurd h.symm (hne _)
  | cons c cs ih =>
    cases ds with
    | nil =>
      rw [List.flatMap_nil, List.flatMap_cons] at h
      exact absurd h (hne _)
    | cons d ds =>
      rw [List.flatMap_cons, List.flatMap_cons] at h
      obtain ⟨rfl, hrest⟩ := (escaped_escapeVisible c).cancel (escaped_escapeVisible d) h
      rw [ih hrest]

end Escapes
end Chars

namespace Text

/-- Different texts are quoted differently. -/
theorem quoted_injective : quoted.Injective := by
  intro s t h
  have hchars := congrArg String.toList h
  simp only [quoted, String.toList_ofList, List.cons_append, List.cons.injEq, true_and] at hchars
  have hinner := List.append_cancel_right hchars
  exact String.toList_inj.1 (Chars.flatMap_escapeVisible_injective hinner)

end Text
end RestShell
