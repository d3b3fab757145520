import RestShell.Json.Reader
import RestShell.Json.Writer

/-! The characters of JSON texts. A number is written with digits, signs, a point and an `e`, and
between quotes nothing below the blank is left as it is. -/

namespace RestShell

/-- The characters that numbers are written with. -/
def Json.isNumeric (c : Char) : Bool := isDigit c || c == '+' || c == '-' || c == '.' || c == 'e'

/-- A text of such characters. -/
def Json.Numeric (cs : List Char) : Prop := ∀ c ∈ cs, isNumeric c = true

open Json

theorem Json.isDigit_of_mem_toDigits {n : Nat} {c : Char} (h : c ∈ Nat.toDigits 10 n) :
    isDigit c = true := by
  have hd := Nat.isDigit_of_mem_toDigits (by decide) (by decide) h
  simp only [Char.isDigit, Bool.and_eq_true, decide_eq_true_eq] at hd
  simp only [isDigit, Bool.and_eq_true, decide_eq_true_eq]
  exact hd

namespace Json.Numeric
variable {cs ds : List Char}

theorem nil : Numeric [] := nofun

theorem cons {c : Char} (hc : isNumeric c = true) (h : Numeric cs) : Numeric (c :: cs) :=
  List.forall_mem_cons.2 ⟨hc, h⟩

theorem append (h : Numeric cs) (h' : Numeric ds) : Numeric (cs ++ ds) :=
  List.forall_mem_append.2 ⟨h, h'⟩

theorem of_subset (h : Numeric ds) (hs : cs ⊆ ds) : Numeric cs := fun c hc => h c (hs hc)

theorem replicate (n : Nat) : Numeric (List.replicate n '0') := fun c hc => by
  rw [List.eq_of_mem_replicate hc]
  rfl

theorem toDigits (n : Nat) : Numeric (Nat.toDigits 10 n) := fun c hc => by
  simp [isNumeric, isDigit_of_mem_toDigits hc]

theorem scientific (h : Numeric ds) (k : Int) : Numeric (NumberStyle.scientific ds k) := by
  have hexponent :
      Numeric ('e' :: (if k < 0 then '-' else '+') :: NumberStyle.digitChars k.natAbs) := by
    refine cons (by decide) (cons ?_ (toDigits _))
    split <;> decide
  unfold NumberStyle.scientific
  match ds with
  | [] => exact hexponent
  | [d] => exact h.append hexponent
  | d :: e :: r =>
    obtain ⟨hd, hr⟩ := List.forall_mem_cons.1 h
    exact (cons hd (cons (by decide) hr)).append hexponent

theorem positional (point : Bool) (h : Numeric ds) (e : Int) :
    Numeric (NumberStyle.positional point ds e) := by
  have hzero : isNumeric '0' = true := by decide
  have hpoint : isNumeric '.' = true := by decide
  cases e with
  | ofNat e =>
    refine (h.append (replicate e)).append ?_
    split
    · exact cons hpoint (cons hzero nil)
    · exact nil
  | negSucc e =>
    rw [NumberStyle.positional]
    split
    · exact (h.of_subset (List.take_subset _ _)).append
        (cons hpoint (h.of_subset (List.drop_subset _ _)))
    · exact (cons hzero (cons hpoint (replicate _))).append h

theorem floatChars (f : NumberStyle) (x : Binary64) : Numeric (f.chars x) := by
  have hsign : Numeric (if x.isNegative then ['-'] else []) := by
    split
    · exact cons (by decide) nil
    · exact nil
  have hdigits (n : Nat) :
      Numeric ((Nat.toDigits 10 n).reverse.dropWhile (· == '0')).reverse := by
    refine (toDigits n).of_subset fun c hc => ?_
    exact List.mem_reverse.1 ((List.dropWhile_sublist _).subset (List.mem_reverse.1 hc))
  unfold NumberStyle.chars
  dsimp only
  split
  · refine hsign.append ?_
    split
    · exact cons (by decide) (cons (by decide) (cons (by decide) nil))
    · exact cons (by decide) nil
  · refine hsign.append ?_
    split
    · exact positional _ (hdigits _) _
    · exact scientific (hdigits _) _

/-- Every number is written with these characters. -/
theorem number (n : Number) : Numeric n.chars := by
  match n with
  | .int (.ofNat n) => exact toDigits n
  | .int (.negSucc n) => exact cons (by decide) (toDigits (n + 1))
  | .float x => exact floatChars floatStyle x

end Json.Numeric

namespace Json

theorem le_toNat_of_isNumeric {c : Char} (h : isNumeric c = true) : 0x21 ≤ c.toNat := by
  simp only [isNumeric, isDigit, Bool.or_eq_true, Bool.and_eq_true, decide_eq_true_eq,
    beq_iff_eq] at h
  rcases h with (((h | rfl) | rfl) | rfl) | rfl
  · have hzero : ('0' : Char).toNat ≤ c.toNat := h.1
    exact Nat.le_trans (by decide) hzero
  all_goals decide

theorem mem_hexDigit (n : Nat) : hexDigit n ∈ "0123456789abcdef".toList := by
  have hall : ∀ n < 16, hexDigit n ∈ "0123456789abcdef".toList := by decide
  have hmod : hexDigit n = hexDigit (n % 16) := by simp [hexDigit]
  rw [hmod]
  exact hall _ (Nat.mod_lt n (by decide))

/-- What a character is written as between quotes. -/
inductive Written (c : Char) : List Char → Prop where
  | plain : c ≠ '"' → c ≠ '\\' → 0x20 ≤ c.toNat → Written c [c]
  | letter {l : Char} : l ∈ "\"\\bfnrt".toList → simpleEscape l = some c → Written c ['\\', l]
  | code : c.toNat < 0x20 →
      Written c ['\\', 'u', '0', '0', hexDigit (c.toNat / 16), hexDigit c.toNat]

theorem written_escape (c : Char) : Written c (escape c) := by
  unfold escape
  split
  · rename_i hc
    exact .letter (by decide) (by rw [hc]; rfl)
  rename_i hquote
  split
  · rename_i hc
    exact .letter (by decide) (by rw [hc]; rfl)
  rename_i hbackslash
  split
  · rename_i hc
    exact .plain hquote hbackslash hc
  rename_i hlow
  split
  · rename_i hc
    exact .letter (by decide) (by rw [hc]; rfl)
  split
  · rename_i hc
    exact .letter (by decide) (by rw [hc]; rfl)
  split
  · rename_i hc
    exact .letter (by decide) (by rw [hc]; rfl)
  split
  · rename_i hc
    exact .letter (by decide) (by rw [hc]; rfl)
  split
  · rename_i hc
    exact .letter (by decide) (by rw [hc]; rfl)
  · exact .code (Nat.lt_of_not_le hlow)

theorem Written.le_toNat {c d : Char} {cs : List Char} (h : Written c cs) (hd : d ∈ cs) :
    0x20 ≤ d.toNat := by
  have hhex (n : Nat) : 0x20 ≤ (hexDigit n).toNat := by
    have hall : "0123456789abcdef".toList.all (0x20 ≤ ·.toNat) = true := by decide
    exact of_decide_eq_true (List.all_eq_true.1 hall _ (mem_hexDigit n))
  cases h with
  | plain _ _ hc => rwa [List.mem_singleton.1 hd]
  | letter hl _ =>
    have hall : "\"\\bfnrt".toList.all (0x20 ≤ ·.toNat) = true := by decide
    simp only [List.mem_cons, List.not_mem_nil, or_false] at hd
    rcases hd with rfl | rfl
    · decide
    · exact of_decide_eq_true (List.all_eq_true.1 hall _ hl)
  | code _ =>
    simp only [List.mem_cons, List.not_mem_nil, or_false] at hd
    rcases hd with rfl | rfl | rfl | rfl | rfl | rfl
    · decide
    · decide
    · decide
    · decide
    · exact hhex _
    · exact hhex _

/-- Nothing below the blank stands in a quoted text. -/
theorem le_toNat_of_mem_quote {cs : List Char} {c : Char} (h : c ∈ quote cs) : 0x20 ≤ c.toNat := by
  simp only [quote, List.cons_append, List.mem_cons, List.mem_append, List.mem_flatMap,
    List.not_mem_nil, or_false] at h
  rcases h with rfl | ⟨d, -, hd⟩ | rfl
  · decide
  · exact (written_escape d).le_toNat hd
  · decide

end Json
end RestShell
