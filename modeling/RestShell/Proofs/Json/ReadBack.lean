import RestShell.Proofs.Json.Numbers

/-! Written values that are read back. A quoted string gives its characters, and a number that is
read back from a text of its own is read back before anything that ends it, as every integer of
64 bits is. Of a list or a mapping the first entry is read, and then the others behind the comma. -/

namespace RestShell.Json

namespace Value

mutual
/-- How deep the brackets of a value are nested. -/
def depth : Value → Nat
  | .array items => itemsDepth items + 1
  | .object fields => fieldsDepth fields + 1
  | _ => 0
def itemsDepth : List Value → Nat
  | [] => 0
  | v :: r => max v.depth (itemsDepth r)
def fieldsDepth : List (String × Value) → Nat
  | [] => 0
  | (_, v) :: r => max v.depth (fieldsDepth r)
end

theorem depth_le_itemsDepth {v : Value} {items : List Value} (h : v ∈ items) :
    v.depth ≤ itemsDepth items := by
  induction items with
  | nil => cases h
  | cons w r ih =>
    rw [itemsDepth]
    rcases List.mem_cons.1 h with rfl | h
    · exact Nat.le_max_left _ _
    · exact Nat.le_trans (ih h) (Nat.le_max_right _ _)

theorem depth_le_fieldsDepth {e : String × Value} {fields : List (String × Value)}
    (h : e ∈ fields) : e.2.depth ≤ fieldsDepth fields := by
  induction fields with
  | nil => cases h
  | cons f r ih =>
    rw [fieldsDepth]
    rcases List.mem_cons.1 h with rfl | h
    · exact Nat.le_max_left _ _
    · exact Nat.le_trans (ih h) (Nat.le_max_right _ _)

/-- The text of every number in the value is read as this number. -/
inductive Legible : Value → Prop where
  | null : Legible .null
  | bool (b : Bool) : Legible (.bool b)
  | number {n : Number} : read (Value.number n).text = .ok (.number n) → Legible (.number n)
  | string (s : String) : Legible (.string s)
  | array {items : List Value} : (∀ v ∈ items, Legible v) → Legible (.array items)
  | object {fields : List (String × Value)} : (∀ e ∈ fields, Legible e.2) →
      Legible (.object fields)

end Value

section Blanks

theorem skip_cons_of_not_space {c : Char} (hc : isSpace c = false) (cs : List Char) :
    skip (c :: cs) = c :: cs := by
  simp [skip, hc]

theorem skip_skip (cs : List Char) : skip (skip cs) = skip cs := by
  unfold skip
  induction cs with
  | nil => rfl
  | cons c r ih => by_cases hc : isSpace c = true <;> simp [hc, ih]

theorem readValue_skip (k : Nat) (cs : List Char) : readValue k (skip cs) = readValue k cs := by
  cases k <;> simp only [readValue, readWith, skip_skip]

/-- Nothing is skipped from a character on that is no blank. -/
theorem length_skip_lt {c : Char} (hc : isSpace c = false) (a b : List Char) :
    (skip b).length < (skip (a ++ c :: b)).length := by
  have hrest : (skip b).length ≤ b.length := (List.dropWhile_sublist isSpace).length_le
  induction a with
  | nil =>
    rw [List.nil_append, skip_cons_of_not_space hc]
    exact Nat.lt_succ_of_le hrest
  | cons d r ih =>
    by_cases hd : isSpace d = true
    · have hskip : skip (d :: r ++ c :: b) = skip (r ++ c :: b) := by simp [skip, hd]
      rwa [hskip]
    · rw [List.cons_append, skip_cons_of_not_space (Bool.not_eq_true _ ▸ hd)]
      simp only [List.length_cons, List.length_append]
      omega

theorem isSpace_of_isNumeric {c : Char} (h : isNumeric c = true) : isSpace c = false := by
  have hle := le_toNat_of_isNumeric h
  simp only [isSpace, Bool.or_eq_false_iff, beq_eq_false_iff_ne]
  refine ⟨⟨⟨?_, ?_⟩, ?_⟩, ?_⟩ <;> rintro rfl <;> exact absurd hle (by decide)

theorem skip_numeric {cs : List Char} (h : Numeric cs) : skip cs = cs := by
  cases cs with
  | nil => rfl
  | cons c r => exact skip_cons_of_not_space (isSpace_of_isNumeric (h c List.mem_cons_self)) r

end Blanks

theorem of_read_eq_ok {s : String} {v : Value} (h : read s = .ok v) :
    ∃ r, readValue depthLimit s.toList = .ok (v, r) ∧ skip r = [] := by
  unfold read readChars? at h
  cases hvalue : readValue depthLimit s.toList with
  | error e =>
    rw [hvalue] at h
    cases h
  | ok p =>
    obtain ⟨w, r⟩ := p
    rw [hvalue] at h
    cases hskip : skip r with
    | nil =>
      simp only [bind, Except.bind, hskip, pure, Except.pure, Except.mapError] at h
      cases h
      exact ⟨r, rfl, hskip⟩
    | cons c t =>
      simp only [bind, Except.bind, hskip, stopAt, Except.mapError] at h
      cases h

section Strings

theorem readChars_written {c : Char} {cs : List Char} (h : Written c cs) (r : List Char) :
    readChars (cs ++ r) = (readChars r).map fun p => (c :: p.1, p.2) := by
  cases h with
  | plain hquote hbackslash hc =>
    simp [readChars, hbackslash, Nat.not_lt.2 hc]
  | letter hl hescape =>
    simp at hl
    rcases hl with rfl | rfl | rfl | rfl | rfl | rfl | rfl <;> cases hescape <;> rfl
  | code hc =>
    have hall : ∀ n < 0x20, hexFour '0' '0' (hexDigit (n / 16)) (hexDigit n) = some n := by decide
    have hlow : ¬ (0xDC00 ≤ c.toNat ∧ c.toNat ≤ 0xDFFF) := by omega
    have hhigh : ¬ (0xD800 ≤ c.toNat ∧ c.toNat ≤ 0xDBFF) := by omega
    simp only [List.cons_append, List.nil_append, readChars, hall _ hc]
    rw [if_neg (by simpa using hlow), if_neg (by simpa using hhigh), Char.ofNat_toNat]

/-- What is written between quotes is read up to the closing one. -/
theorem readChars_escaped (cs r : List Char) :
    readChars (cs.flatMap escape ++ '"' :: r) = .ok (cs, r) := by
  induction cs with
  | nil => rfl
  | cons c s ih =>
    rw [List.flatMap_cons, List.append_assoc, readChars_written (written_escape c), ih]
    rfl

theorem readValue_quote (k : Nat) (s : String) (r : List Char) :
    readValue k (quote s.toList ++ r) = .ok (.string s, r) := by
  have hquote : quote s.toList ++ r = '"' :: (s.toList.flatMap escape ++ '"' :: r) := by
    simp [quote]
  have hskip (cs : List Char) : skip ('"' :: cs) = '"' :: cs := rfl
  rw [hquote]
  cases k <;>
    simp only [readValue, readWith, hskip, readChars_escaped, Except.map, String.ofList_toList]

end Strings

section Numbers

theorem readWith_numeric (nested : Option (List Char → Reading Value)) {c : Char}
    (hc : isNumeric c = true) (cs : List Char) :
    readWith nested (c :: cs) = (readSigned (c :: cs)).map fun p => (.number p.1, p.2) := by
  by_cases hminus : c = '-'
  · subst hminus
    rfl
  · rw [readWith, skip_cons_of_not_space (isSpace_of_isNumeric hc)]
    split
    case h_9 h =>
      cases h
      rw [readSigned]
      · split <;> rfl
      · exact hminus
    all_goals
      rename_i h
      cases h <;> first | exact absurd rfl hminus | cases hc

/-- What begins as a number does is read as one. -/
theorem readValue_numeric {c : Char} (hc : isNumeric c = true) (k : Nat) (cs : List Char) :
    readValue k (c :: cs) = (readSigned (c :: cs)).map fun p => (.number p.1, p.2) := by
  cases k <;> exact readWith_numeric _ hc cs

/-- A number that is read back from its own text is read back from a longer one. -/
theorem readSigned_of_read {n : Number} (h : read (Value.number n).text = .ok (.number n)) :
    n.chars ≠ [] ∧ ∀ t, Ends t → readSigned (n.chars ++ t) = .ok (n, t) := by
  obtain ⟨r, hread, hskip⟩ := of_read_eq_ok h
  rw [Value.text, String.toList_ofList, Value.chars] at hread
  have hnumeric := Numeric.number n
  have hne : n.chars ≠ [] := by
    intro hnil
    rw [hnil] at hread
    cases hread
  refine ⟨hne, ?_⟩
  obtain ⟨c, cs, hchars⟩ := List.exists_cons_of_ne_nil hne
  rw [hchars] at hread hnumeric ⊢
  rw [readValue_numeric (hnumeric c List.mem_cons_self)] at hread
  obtain ⟨m, hsigned⟩ : ∃ m, readSigned (c :: cs) = .ok (m, r) ∧ Value.number m = .number n := by
    cases hsigned : readSigned (c :: cs) with
    | error e =>
      rw [hsigned] at hread
      cases hread
    | ok p =>
      rw [hsigned] at hread
      cases hread
      exact ⟨p.1, rfl, rfl⟩
  obtain ⟨hsigned, hm⟩ := hsigned
  cases hm
  obtain ⟨p, hp, hall⟩ := local_readSigned _ _ _ hsigned
  have hr : Numeric r := hnumeric.of_subset (hp ▸ List.subset_append_right p r)
  rw [skip_numeric hr] at hskip
  rw [hskip, List.append_nil] at hp
  exact hp ▸ hall

theorem readValue_number {n : Number} (h : read (Value.number n).text = .ok (.number n)) (k : Nat)
    {rest : List Char} (hrest : Ends rest) :
    readValue k (n.chars ++ rest) = .ok (.number n, rest) := by
  obtain ⟨hne, hall⟩ := readSigned_of_read h
  have hsigned := hall rest hrest
  have hnumeric := Numeric.number n
  obtain ⟨c, cs, hchars⟩ := List.exists_cons_of_ne_nil hne
  rw [hchars, List.cons_append] at hsigned ⊢
  rw [readValue_numeric (hnumeric c (hchars ▸ List.mem_cons_self)), hsigned]
  rfl

/-- The integers of the range of 64 bits are read back. -/
theorem read_int {n : Int} (hlow : -Nat.pow 2 63 ≤ n) (hhigh : n < Nat.pow 2 64) :
    read (Value.number (.int n)).text = .ok (.number (.int n)) := by
  have hvalue : readValue depthLimit (Number.int n).chars = .ok (.number (.int n), []) := by
    have hpower : Nat.pow 2 63 < Nat.pow 2 64 := by decide
    cases n with
    | ofNat n =>
      rw [Int.ofNat_eq_natCast, Int.ofNat_lt] at hhigh
      have hread := readNumber_toDigits false hhigh
      rw [Number.chars]
      cases hD : Nat.toDigits 10 n with
      | nil => simp at hD
      | cons c D =>
        have hc : isDigit c = true := isDigit_of_mem_toDigits (hD ▸ List.mem_cons_self)
        have hnumeric : isNumeric c = true := by simp [isNumeric, hc]
        rw [hD] at hread
        rw [readValue_numeric hnumeric, readSigned_digit hc, hread]
        rfl
    | negSucc n =>
      have hle : n + 1 ≤ Nat.pow 2 63 := by omega
      have hread := readNumber_toDigits true (Nat.lt_of_le_of_lt hle hpower)
      have hinteger : ofInteger true (n + 1) = .int (.negSucc n) := by
        simp only [ofInteger, if_true]
        rw [if_neg (by omega)]
        rfl
      rw [hinteger] at hread
      change (readNumber true _).map _ = _
      rw [hread]
      rfl
  rw [read, readChars?, Value.text, String.toList_ofList, Value.chars, hvalue]
  rfl

end Numbers

section Brackets
variable {k fuel : Nat} {cs r s t w : List Char} {v : Value}

/-- What is read as a value does not begin with the bracket that closes a list. -/
theorem exists_opening (h : readValue k cs = .ok (v, r)) :
    ∃ c s, skip cs = c :: s ∧ c ≠ ']' := by
  rw [← readValue_skip] at h
  cases hcs : skip cs with
  | nil =>
    rw [hcs] at h
    cases k <;> cases h
  | cons c s =>
    refine ⟨c, s, rfl, ?_⟩
    rintro rfl
    rw [hcs] at h
    cases k <;> cases h

theorem exists_opening_of_readItems {p : List Value × List Char}
    (h : readItems (readValue k) fuel (skip cs) = .ok p) : ∃ c s, skip cs = c :: s ∧ c ≠ ']' := by
  cases fuel with
  | zero => cases h
  | succ fuel =>
    rw [readItems, readValue_skip] at h
    cases hvalue : readValue k cs with
    | error e =>
      rw [hvalue] at h
      cases h
    | ok p => exact exists_opening hvalue

theorem exists_quote_of_readFields {item : List Char → Reading Value}
    {p : List (String × Value) × List Char} (h : readFields item fuel cs = .ok p) :
    ∃ s, cs = '"' :: s := by
  unfold readFields at h
  split at h
  · cases h
  · cases h
  · exact ⟨_, rfl⟩
  · cases h

theorem readItems_last (h : readValue k cs = .ok (v, r)) (hr : skip r = ']' :: t) :
    readItems (readValue k) (fuel + 1) (skip cs) = .ok ([v], t) := by
  rw [readItems, readValue_skip, h]
  simp only [bind, Except.bind, hr]
  rfl

theorem readItems_more (h : readValue k cs = .ok (v, r)) (hr : skip r = ',' :: t)
    {vs : List Value} (hnext : readItems (readValue k) fuel (skip t) = .ok (vs, w)) :
    readItems (readValue k) (fuel + 1) (skip cs) = .ok (v :: vs, w) := by
  obtain ⟨c, s, ht, hc⟩ := exists_opening_of_readItems hnext
  rw [ht] at hnext
  rw [readItems, readValue_skip, h]
  simp [bind, Except.bind, hr, ht, hnext, pure, Except.pure, hc]

/-- A key, a colon, a blank and what follows. -/
def entry (key : String) (cs : List Char) : List Char := quote key.toList ++ ':' :: ' ' :: cs

theorem entry_eq (key : String) (cs : List Char) :
    entry key cs = '"' :: (key.toList.flatMap escape ++ '"' :: ':' :: ' ' :: cs) := by
  simp [entry, quote]

theorem entry_append (key : String) (cs ds : List Char) :
    entry key cs ++ ds = entry key (cs ++ ds) := by
  simp [entry]

theorem skip_entry (key : String) (cs : List Char) : skip (entry key cs) = entry key cs := rfl

theorem readValue_blank (k : Nat) (cs : List Char) : readValue k (' ' :: cs) = readValue k cs := by
  rw [← readValue_skip, ← readValue_skip k cs]
  rfl

theorem readFields_last {key : String} (h : readValue k cs = .ok (v, r)) (hr : skip r = '}' :: t) :
    readFields (readValue k) (fuel + 1) (entry key cs) = .ok ([(key, v)], t) := by
  have hcolon : skip (':' :: ' ' :: cs) = ':' :: ' ' :: cs := rfl
  rw [entry_eq, readFields, readChars_escaped]
  simp [bind, Except.bind, pure, Except.pure, hcolon, readValue_blank, h, hr]

theorem readFields_more {key : String} (h : readValue k cs = .ok (v, r)) (hr : skip r = ',' :: t)
    {fs : List (String × Value)} (hnext : readFields (readValue k) fuel (skip t) = .ok (fs, w)) :
    readFields (readValue k) (fuel + 1) (entry key cs) = .ok ((key, v) :: fs, w) := by
  obtain ⟨s, ht⟩ := exists_quote_of_readFields hnext
  rw [ht] at hnext
  have hcolon : skip (':' :: ' ' :: cs) = ':' :: ' ' :: cs := rfl
  rw [entry_eq, readFields, readChars_escaped]
  simp [bind, Except.bind, pure, Except.pure, hcolon, readValue_blank, h, hr, ht, hnext]

theorem readValue_items {vs : List Value}
    (h : readItems (readValue k) ((skip r).length + 1) (skip r) = .ok (vs, t)) :
    readValue (k + 1) ('[' :: r) = .ok (.array vs, t) := by
  obtain ⟨c, s, hr, hc⟩ := exists_opening_of_readItems h
  rw [hr, List.length_cons] at h
  have hskip : skip ('[' :: r) = '[' :: r := rfl
  simp [readValue, readWith, hskip, hr, hc, h, Except.map]

theorem readValue_fields {fs : List (String × Value)}
    (h : readFields (readValue k) ((skip r).length + 1) (skip r) = .ok (fs, t)) :
    readValue (k + 1) ('{' :: r) = .ok (.object (Assoc.merge [] fs), t) := by
  obtain ⟨s, hr⟩ := exists_quote_of_readFields h
  rw [hr, List.length_cons] at h
  have hskip : skip ('{' :: r) = '{' :: r := rfl
  simp [readValue, readWith, hskip, hr, h, Except.map]

end Brackets

end RestShell.Json
