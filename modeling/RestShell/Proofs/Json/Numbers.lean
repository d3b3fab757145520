import Mathlib.Data.List.Basic
import Mathlib.Data.List.TakeWhile
import RestShell.Proofs.Json.Characters

/-! Numbers as they are read. A number is read up to a rest that cannot go on with it, and the
same characters give the same number before any other such rest. The digits of a natural number
below 2^64 give it back. -/

namespace RestShell.Json

/-- Nothing, or a character that is no digit. -/
def NoDigit (cs : List Char) : Prop := ∀ c ∈ cs.head?, isDigit c = false

/-- What cannot go on with a number: no digit, no point and no exponent begins it. -/
def Ends (cs : List Char) : Prop :=
  ∀ c ∈ cs.head?, isDigit c = false ∧ c ≠ '.' ∧ c ≠ 'e' ∧ c ≠ 'E'

theorem Ends.noDigit {cs : List Char} (h : Ends cs) : NoDigit cs := fun c hc => (h c hc).1

/-- What is read up to a rest is read from the same characters before any other rest. -/
def Local {α : Type} (f : List Char → Reading α) : Prop :=
  ∀ cs x r, f cs = .ok (x, r) → ∃ p, cs = p ++ r ∧ ∀ t, Ends t → f (p ++ t) = .ok (x, t)

section Digits
variable {D t : List Char}

theorem takeWhile_digits (hD : ∀ c ∈ D, isDigit c = true) (ht : NoDigit t) :
    (D ++ t).takeWhile isDigit = D := by
  rw [List.takeWhile_append_of_pos hD]
  cases t with
  | nil => simp
  | cons c r => simp [ht c rfl]

theorem dropWhile_digits (hD : ∀ c ∈ D, isDigit c = true) (ht : NoDigit t) :
    (D ++ t).dropWhile isDigit = t := by
  rw [List.dropWhile_append_of_pos hD]
  cases t with
  | nil => rfl
  | cons c r => simp [ht c rfl]

/-- A text is its digits and what follows them. -/
theorem exists_digits (cs : List Char) :
    ∃ D t, cs = D ++ t ∧ (∀ c ∈ D, isDigit c = true) ∧ NoDigit t := by
  refine ⟨cs.takeWhile isDigit, cs.dropWhile isDigit, (List.takeWhile_append_dropWhile).symm,
    fun c hc => List.mem_takeWhile_imp hc, fun c hc => ?_⟩
  have hnot := List.head?_dropWhile_not isDigit cs
  rwa [Option.mem_def.1 hc] at hnot

theorem noDigit_append {p r : List Char} (h : NoDigit (p ++ r)) (ht : Ends t) :
    NoDigit (p ++ t) := by
  cases p with
  | nil => exact ht.noDigit
  | cons c p => exact h

/-- A reader that goes on behind digits with one that is local. -/
theorem exists_local_of_digits {α : Type} {f g : List Char → Reading α} (hg : Local g)
    (hfg : ∀ t, NoDigit t → f (D ++ t) = g t) {x : α} {r : List Char} (ht : NoDigit t)
    (h : f (D ++ t) = .ok (x, r)) :
    ∃ p, D ++ t = p ++ r ∧ ∀ u, Ends u → f (p ++ u) = .ok (x, u) := by
  rw [hfg t ht] at h
  obtain ⟨p, rfl, hp⟩ := hg t x r h
  refine ⟨D ++ p, (List.append_assoc D p r).symm, fun u hu => ?_⟩
  rw [List.append_assoc, hfg _ (noDigit_append ht hu), hp u hu]

/-- A reader that goes on behind a character with one that is local. -/
theorem exists_local_of_cons {α : Type} {f g : List Char → Reading α} (hg : Local g) {c : Char}
    (hfg : ∀ t, f (c :: t) = g t) {x : α} {r : List Char} (h : f (c :: t) = .ok (x, r)) :
    ∃ p, c :: t = p ++ r ∧ ∀ u, Ends u → f (p ++ u) = .ok (x, u) := by
  rw [hfg] at h
  obtain ⟨p, rfl, hp⟩ := hg t x r h
  refine ⟨c :: p, rfl, fun u hu => ?_⟩
  rw [List.cons_append, hfg, hp u hu]

end Digits

section Exponent
variable (negative : Bool) (significand : Nat) (start : Int)

variable {negative significand} in
theorem of_finish_eq_ok {e : Int} {cs r : List Char} {x : Number}
    (h : finish negative significand e cs = .ok (x, r)) :
    cs = r ∧ ∀ t, finish negative significand e t = .ok (x, t) := by
  unfold finish at h ⊢
  cases hx : ofParts significand e with
  | none =>
    rw [hx] at h
    cases h
  | some y =>
    rw [hx] at h
    cases h
    exact ⟨rfl, fun _ => rfl⟩

theorem local_finish (e : Int) : Local (finish negative significand e) := by
  intro cs x r h
  obtain ⟨rfl, hall⟩ := of_finish_eq_ok h
  exact ⟨[], rfl, fun t _ => hall t⟩

/-- Of digits, those that are taken into an exponent do not depend on what follows. -/
theorem gatherExponent_digits {D : List Char} (hD : ∀ c ∈ D, isDigit c = true) (e : Nat) :
    ∃ e' D', (∀ c ∈ D', isDigit c = true) ∧
      ∀ t, NoDigit t → gatherExponent e (D ++ t) = (e', D' ++ t) := by
  induction D generalizing e with
  | nil =>
    refine ⟨e, [], nofun, fun t ht => ?_⟩
    cases t with
    | nil => rfl
    | cons c r => simp [gatherExponent, ht c rfl]
  | cons c r ih =>
    obtain ⟨hc, hr⟩ := List.forall_mem_cons.1 hD
    by_cases hfits : e * 10 + (c.toNat - 48) < Nat.pow 2 31
    · obtain ⟨e', D', hD', heq⟩ := ih hr (e * 10 + (c.toNat - 48))
      refine ⟨e', D', hD', fun t ht => ?_⟩
      rw [List.cons_append, gatherExponent, hc, decide_eq_true hfits, Bool.and_self, if_pos rfl,
        heq t ht]
    · refine ⟨e, c :: r, hD, fun t _ => ?_⟩
      rw [List.cons_append, gatherExponent, decide_eq_false hfits, Bool.and_false,
        if_neg Bool.false_ne_true]

/-- What follows the sign of an exponent. -/
def exponentOf (down : Bool) (ds : List Char) : Reading Number :=
  match ds with
  | [] => stop .endInValue []
  | c :: _ =>
    if isDigit c then
      match gatherExponent 0 ds with
      | (e, d :: r) =>
        if isDigit d then
          if significand ≠ 0 ∧ down = false then stopAt .numberTooLarge (d :: r)
          else .ok (signed negative (.ofNat 0), afterDigits r)
        else finish negative significand (if down then start - e else start + e) (d :: r)
      | (e, []) => finish negative significand (if down then start - e else start + e) []
    else stopAt .badNumber ds

theorem readExponent_unsigned {cs : List Char} (hplus : ∀ r, cs ≠ '+' :: r)
    (hminus : ∀ r, cs ≠ '-' :: r) :
    readExponent negative significand start cs =
      exponentOf negative significand start false cs := by
  unfold readExponent
  split
  rename_i down ds hsign
  split at hsign
  · exact absurd rfl (hplus _)
  · exact absurd rfl (hminus _)
  · cases hsign
    rfl

/-- An exponent that fits scales the number, whatever ends it. -/
theorem exponentOf_fits {down : Bool} {c : Char} {D t : List Char} {e : Nat}
    (hc : isDigit c = true) (hgather : gatherExponent 0 (c :: D ++ t) = (e, t))
    (ht : NoDigit t) :
    exponentOf negative significand start down (c :: D ++ t) =
      finish negative significand (if down then start - e else start + e) t := by
  rw [List.cons_append] at hgather ⊢
  cases t with
  | nil => simp only [exponentOf, hc, if_true, hgather]
  | cons d u =>
    have hd : isDigit d = false := ht d rfl
    simp only [exponentOf, hc, if_true, hgather, hd, Bool.false_eq_true, if_false]

/-- One that does not fit is too large, or it leaves nothing of the number. -/
theorem exponentOf_over {down : Bool} {c d : Char} {D D' t : List Char} {e : Nat}
    (hc : isDigit c = true) (hgather : gatherExponent 0 (c :: D ++ t) = (e, d :: (D' ++ t)))
    (hd : isDigit d = true) (hrest : ∀ c ∈ D', isDigit c = true) (ht : NoDigit t) :
    exponentOf negative significand start down (c :: D ++ t) =
      if significand ≠ 0 ∧ down = false then stopAt .numberTooLarge (d :: (D' ++ t))
      else .ok (signed negative (.ofNat 0), t) := by
  rw [List.cons_append] at hgather ⊢
  simp only [exponentOf, hc, if_true, hgather, hd, afterDigits, dropWhile_digits hrest ht]

theorem local_exponentOf (down : Bool) : Local (exponentOf negative significand start down) := by
  intro cs x r h
  obtain ⟨D, t, rfl, hD, ht⟩ := exists_digits cs
  cases D with
  | nil =>
    cases t with
    | nil => cases h
    | cons c r => simp [exponentOf, ht c rfl, stopAt] at h
  | cons c D =>
    have hc : isDigit c = true := hD c (by simp)
    obtain ⟨e, D', hD', heq⟩ := gatherExponent_digits hD 0
    cases D' with
    | nil =>
      exact exists_local_of_digits (local_finish negative significand _)
        (fun t ht => exponentOf_fits negative significand start hc (heq t ht) ht) ht h
    | cons d D' =>
      obtain ⟨hd, hrest⟩ := List.forall_mem_cons.1 hD'
      rw [exponentOf_over negative significand start hc (heq t ht) hd hrest ht] at h
      by_cases hlarge : significand ≠ 0 ∧ down = false
      · rw [if_pos hlarge] at h
        cases h
      · rw [if_neg hlarge] at h
        cases h
        refine ⟨c :: D, rfl, fun u hu => ?_⟩
        rw [exponentOf_over negative significand start hc (heq u hu.noDigit) hd hrest hu.noDigit,
          if_neg hlarge]

theorem local_readExponent : Local (readExponent negative significand start) := by
  intro cs x r h
  by_cases hplus : ∃ s, cs = '+' :: s
  · obtain ⟨s, rfl⟩ := hplus
    exact exists_local_of_cons (local_exponentOf negative significand start false)
      (fun _ => rfl) h
  by_cases hminus : ∃ s, cs = '-' :: s
  · obtain ⟨s, rfl⟩ := hminus
    exact exists_local_of_cons (local_exponentOf negative significand start true)
      (fun _ => rfl) h
  · rw [readExponent_unsigned negative significand start (not_exists.1 hplus)
      (not_exists.1 hminus)] at h
    obtain ⟨p, rfl, hp⟩ := local_exponentOf negative significand start false cs x r h
    refine ⟨p, rfl, fun t ht => ?_⟩
    cases p with
    | nil =>
      -- nothing is read from nothing
      cases hp [] nofun
    | cons c p =>
      rw [readExponent_unsigned, hp t ht]
      · rintro s hs
        cases hs
        exact hplus ⟨_, rfl⟩
      · rintro s hs
        cases hs
        exact hminus ⟨_, rfl⟩

end Exponent

section Number
variable (negative : Bool)

/-- What follows the digits behind the point. -/
def afterFraction (significand : Nat) (e : Int) : List Char → Reading Number
  | 'e' :: r | 'E' :: r => readExponent negative significand e r
  | r => finish negative significand e r

theorem afterFraction_of_ends (significand : Nat) (e : Int) {t : List Char} (ht : Ends t) :
    afterFraction negative significand e t = finish negative significand e t := by
  unfold afterFraction
  split
  · exact absurd rfl (ht _ rfl).2.2.1
  · exact absurd rfl (ht _ rfl).2.2.2
  · rfl

theorem local_afterFraction (significand : Nat) (e : Int) :
    Local (afterFraction negative significand e) := by
  intro cs x r h
  have hcs := h
  unfold afterFraction at hcs
  split at hcs
  · exact exists_local_of_cons (local_readExponent negative significand e) (fun _ => rfl) h
  · exact exists_local_of_cons (local_readExponent negative significand e) (fun _ => rfl) h
  · obtain ⟨rfl, hall⟩ := of_finish_eq_ok hcs
    exact ⟨[], rfl, fun t ht => (afterFraction_of_ends negative significand e ht).trans (hall t)⟩

def digitValue (c : Char) : Nat := c.toNat - 48

theorem digitsOf_append {D t : List Char} (hD : ∀ c ∈ D, isDigit c = true) (ht : NoDigit t) :
    digitsOf (D ++ t) = D.map digitValue := by
  rw [digitsOf, takeWhile_digits hD ht]
  rfl

theorem readFraction_digits {D t : List Char} (significand dropped : Nat)
    (hD : ∀ c ∈ D, isDigit c = true) (hne : D ≠ []) (ht : NoDigit t) :
    readFraction negative significand dropped (D ++ t) =
      afterFraction negative (gather significand (D.map digitValue)).1
        (dropped - (gather significand (D.map digitValue)).2) t := by
  obtain ⟨c, D', rfl⟩ := List.exists_cons_of_ne_nil hne
  unfold readFraction
  rw [digitsOf_append hD ht]
  change afterFraction negative _ _ (afterDigits (c :: D' ++ t)) = _
  rw [afterDigits, dropWhile_digits hD ht]
  rfl

theorem local_readFraction (significand dropped : Nat) :
    Local (readFraction negative significand dropped) := by
  intro cs x r h
  obtain ⟨D, t, rfl, hD, ht⟩ := exists_digits cs
  by_cases hne : D = []
  · subst hne
    cases t with
    | nil => cases h
    | cons c u => simp [readFraction, digitsOf, ht c rfl, stopAt] at h
  · exact exists_local_of_digits (local_afterFraction negative _ _)
      (fun t ht => readFraction_digits negative significand dropped hD hne ht) ht h

/-- What follows the digits of the whole part. -/
def afterWhole (ds : List Nat) : List Char → Reading Number
  | '.' :: r => readFraction negative (gather 0 ds).1 (ds.length - (gather 0 ds).2) r
  | 'e' :: r | 'E' :: r =>
    readExponent negative (gather 0 ds).1 (ds.length - (gather 0 ds).2 : Nat) r
  | r =>
    if (gather 0 ds).2 = ds.length then .ok (ofInteger negative (gather 0 ds).1, r)
    else finish negative (gather 0 ds).1 (ds.length - (gather 0 ds).2 : Nat) r

theorem afterWhole_of_ends (ds : List Nat) {t : List Char} (ht : Ends t) :
    afterWhole negative ds t =
      if (gather 0 ds).2 = ds.length then .ok (ofInteger negative (gather 0 ds).1, t)
      else finish negative (gather 0 ds).1 (ds.length - (gather 0 ds).2 : Nat) t := by
  unfold afterWhole
  split
  · exact absurd rfl (ht _ rfl).2.1
  · exact absurd rfl (ht _ rfl).2.2.1
  · exact absurd rfl (ht _ rfl).2.2.2
  · rfl

theorem local_afterWhole (ds : List Nat) : Local (afterWhole negative ds) := by
  intro cs x r h
  have hcs := h
  unfold afterWhole at hcs
  split at hcs
  · exact exists_local_of_cons (local_readFraction negative _ _) (fun _ => rfl) h
  · exact exists_local_of_cons (local_readExponent negative _ _) (fun _ => rfl) h
  · exact exists_local_of_cons (local_readExponent negative _ _) (fun _ => rfl) h
  · split at hcs
    · rename_i hfits
      cases hcs
      refine ⟨[], rfl, fun t ht => ?_⟩
      rw [List.nil_append, afterWhole_of_ends negative ds ht, if_pos hfits]
    · rename_i hfits
      obtain ⟨rfl, hall⟩ := of_finish_eq_ok hcs
      refine ⟨[], rfl, fun t ht => ?_⟩
      rw [List.nil_append, afterWhole_of_ends negative ds ht, if_neg hfits, hall t]

theorem readNumber_digits {c : Char} {D t : List Char} (hD : ∀ d ∈ c :: D, isDigit d = true)
    (hlead : ¬ (c = '0' ∧ D ≠ [])) (ht : NoDigit t) :
    readNumber negative (c :: D ++ t) = afterWhole negative ((c :: D).map digitValue) t := by
  obtain ⟨hc, hrest⟩ := List.forall_mem_cons.1 hD
  have hone : ¬ (c = '0' ∧ (digitsOf (D ++ t)).isEmpty = false) := by
    rw [digitsOf_append hrest ht]
    simpa using hlead
  have hdigits : digitsOf (c :: (D ++ t)) = (c :: D).map digitValue := digitsOf_append hD ht
  have hafter : afterDigits (c :: (D ++ t)) = t := dropWhile_digits hD ht
  rw [List.cons_append, readNumber, if_neg hone, if_pos hc, hdigits, hafter]
  rfl

/-- A number is read from its own characters, whatever ends it. -/
theorem local_readNumber : Local (readNumber negative) := by
  intro cs x r h
  obtain ⟨D, t, rfl, hD, ht⟩ := exists_digits cs
  cases D with
  | nil =>
    cases t with
    | nil => cases h
    | cons c u =>
      have hc : isDigit c = false := ht c rfl
      have hzero : c ≠ '0' := by
        rintro rfl
        cases hc
      simp [readNumber, hc, hzero, stopAt] at h
  | cons c D =>
    by_cases hlead : c = '0' ∧ D ≠ []
    · have hmore : (digitsOf (D ++ t)).isEmpty = false := by
        rw [digitsOf_append (fun d hd => hD d (List.mem_cons_of_mem c hd)) ht]
        simpa using hlead.2
      rw [List.cons_append, readNumber, if_pos ⟨hlead.1, hmore⟩] at h
      cases h
    · exact exists_local_of_digits (local_afterWhole negative _)
        (fun t ht => readNumber_digits negative hD hlead ht) ht h

end Number

section Signed

/-- A number with its sign. -/
def readSigned : List Char → Reading Number
  | [] => stop .endInValue []
  | '-' :: r => readNumber true r
  | c :: r => if isDigit c then readNumber false (c :: r) else stopAt .valueExpected (c :: r)

theorem readSigned_digit {c : Char} (hc : isDigit c = true) (r : List Char) :
    readSigned (c :: r) = readNumber false (c :: r) := by
  unfold readSigned
  split
  · contradiction
  · rename_i h
    cases h
    cases hc
  · rename_i h
    cases h
    rw [if_pos hc]

theorem local_readSigned : Local readSigned := by
  intro cs x r h
  have hcs := h
  unfold readSigned at hcs
  split at hcs
  · cases hcs
  · exact exists_local_of_cons (local_readNumber true) (fun _ => rfl) h
  · split at hcs
    · rename_i hc
      obtain ⟨p, hp, hall⟩ := local_readNumber false _ x r hcs
      cases p with
      | nil =>
        -- nothing is read from nothing
        cases hall [] nofun
      | cons d p =>
        cases hp
        refine ⟨_ :: p, rfl, fun t ht => ?_⟩
        rw [List.cons_append, readSigned_digit hc]
        exact hall t ht
    · cases hcs

end Signed

section Integers

theorem le_ofDigitChars (D : List Char) (m : Nat) : m ≤ Nat.ofDigitChars 10 D m := by
  rw [Nat.ofDigitChars_eq_ofDigitChars_zero]
  exact Nat.le_trans (Nat.le_mul_of_pos_left m (Nat.pow_pos (by decide))) (Nat.le_add_right _ _)

/-- Digits that make a number below 2^64 are all taken. -/
theorem gather_digits {D : List Char} {m : Nat} (h : Nat.ofDigitChars 10 D m < Nat.pow 2 64) :
    gather m (D.map digitValue) = (Nat.ofDigitChars 10 D m, D.length) := by
  induction D generalizing m with
  | nil => rfl
  | cons c r ih =>
    have hvalue : c.toNat - '0'.toNat = digitValue c := rfl
    rw [Nat.ofDigitChars_cons, Nat.mul_comm, hvalue] at h ⊢
    have hle := le_ofDigitChars r (m * 10 + digitValue c)
    rw [List.map_cons, gather, if_neg (Nat.not_le.2 (Nat.lt_of_le_of_lt hle h)), ih h]
    rfl

theorem head?_toDigits {n : Nat} (hn : n ≠ 0) : (Nat.toDigits 10 n).head? ≠ some '0' := by
  induction n using Nat.strongRecOn with
  | ind n ih =>
    by_cases hlow : n < 10
    · have hall : ∀ d < 10, d ≠ 0 → [Nat.digitChar d].head? ≠ some '0' := by decide
      rw [Nat.toDigits_of_lt_base hlow]
      exact hall n hlow hn
    · have hrest := ih (n / 10) (by omega) (by omega)
      rw [Nat.toDigits_of_base_le (by decide) (Nat.le_of_not_lt hlow), List.head?_append_of_ne_nil]
      · exact hrest
      · simp

theorem readNumber_toDigits (negative : Bool) {n : Nat} (hn : n < Nat.pow 2 64) :
    readNumber negative (Nat.toDigits 10 n) = .ok (ofInteger negative n, []) := by
  have hdigit : ∀ c ∈ Nat.toDigits 10 n, isDigit c = true := fun c => isDigit_of_mem_toDigits
  have hvalue := Nat.ofDigitChars_ten_toDigits (n := n)
  cases hD : Nat.toDigits 10 n with
  | nil => simp at hD
  | cons c D =>
    have hlead : ¬ (c = '0' ∧ D ≠ []) := by
      rintro ⟨rfl, hne⟩
      have hzero : n = 0 := by
        by_contra hn
        exact head?_toDigits hn (by rw [hD]; rfl)
      subst hzero
      cases hD
      exact hne rfl
    rw [hD] at hdigit hvalue
    have hread := readNumber_digits negative hdigit hlead (t := []) nofun
    have hgather := gather_digits (D := c :: D) (m := 0) (hvalue ▸ hn)
    rw [List.append_nil] at hread
    have hends : Ends [] := nofun
    rw [hread, afterWhole_of_ends negative _ hends, hgather, hvalue, List.length_map, if_pos rfl]

end Integers

end RestShell.Json
