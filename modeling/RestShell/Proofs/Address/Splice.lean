import RestShell.Proofs.Address.Containment

/-! A path with more text behind it. Squeezing, trimming, splitting and joining act on a text
that is put together of two as they act on the parts, as long as what joins the parts is
neither a blank nor a slash. -/

namespace RestShell
namespace Chars

theorem squeeze_eq_nil_iff {cs : List Char} : squeeze cs = [] ↔ cs = [] := by
  rw [← List.head?_eq_none_iff, head?_squeeze, List.head?_eq_none_iff]

theorem getLast?_squeeze (cs : List Char) : (squeeze cs).getLast? = cs.getLast? := by
  induction cs with
  | nil => rfl
  | cons c r ih =>
    simp only [squeeze]
    split
    · rename_i h
      have hne : r ≠ [] := by
        rintro rfl
        cases h.2
      rw [ih, List.getLast?_cons_of_ne_nil hne]
    · by_cases hne : r = []
      · rw [squeeze_eq_nil_iff.2 hne, hne]
      · rw [List.getLast?_cons_of_ne_nil (mt squeeze_eq_nil_iff.1 hne),
          List.getLast?_cons_of_ne_nil hne, ih]

/-- Two parts are squeezed apart unless slashes meet between them. -/
theorem squeeze_append {a b : List Char} (h : a.getLast? = some '/' → b.head? ≠ some '/') :
    squeeze (a ++ b) = squeeze a ++ squeeze b := by
  induction a with
  | nil => rfl
  | cons c r ih =>
    by_cases hr : r = []
    · subst hr
      by_cases hc : c = '/'
      · have hb : b.head? ≠ some '/' := h (by simp [hc])
        simp [squeeze, hc, hb]
      · simp [squeeze, hc]
    · have hhead : (r ++ b).head? = r.head? := by
        rw [List.head?_append_of_ne_nil _ hr]
      rw [List.getLast?_cons_of_ne_nil hr] at h
      simp only [List.cons_append, squeeze, hhead, ih h]
      split <;> rfl

theorem squeeze_append_sublist (a b : List Char) :
    List.Sublist (squeeze (a ++ b)) (squeeze a ++ b) := by
  induction a with
  | nil => exact squeeze_sublist b
  | cons c r ih =>
    by_cases hr : r = []
    · subst hr
      simp only [List.singleton_append, squeeze]
      split
      · exact (squeeze_sublist b).trans (List.sublist_append_right _ b)
      · simpa using squeeze_sublist b
    · have hhead : (r ++ b).head? = r.head? := List.head?_append_of_ne_nil _ hr
      simp only [List.cons_append, squeeze, hhead]
      split
      · exact ih
      · exact ih.cons_cons c

theorem Spaced.squeeze_eq {cs : List Char} (h : Spaced cs) : squeeze cs = cs := by
  induction cs with
  | nil => rfl
  | cons c r ih =>
    obtain ⟨hc, hr⟩ := List.isChain_cons.1 h
    rw [squeeze, if_neg fun hs => hc '/' (Option.mem_def.2 hs.2) ⟨hs.1, rfl⟩, ih hr]

theorem squeeze_eq_self_iff {cs : List Char} : squeeze cs = cs ↔ Spaced cs :=
  ⟨fun h => h ▸ spaced_squeeze cs, Spaced.squeeze_eq⟩

theorem squeeze_slash_slash (a b : List Char) :
    squeeze (a ++ '/' :: '/' :: b) = squeeze (a ++ '/' :: b) := by
  induction a with
  | nil => simp [squeeze]
  | cons c r ih =>
    have hhead : (r ++ '/' :: '/' :: b).head? = (r ++ '/' :: b).head? := by
      cases r <;> rfl
    simp only [List.cons_append, squeeze, hhead, ih]

/-- A slash behind a text is squeezed as if it was forced there. -/
theorem squeeze_concat (cs : List Char) : squeeze (cs ++ ['/']) = withTrail (squeeze cs) := by
  by_cases h : cs.getLast? = some '/'
  · obtain ⟨r, rfl⟩ := List.getLast?_eq_some_iff.1 h
    have htwo : squeeze (r ++ ['/'] ++ ['/']) = squeeze (r ++ ['/']) := by
      simpa using squeeze_slash_slash r []
    rw [htwo, withTrail, if_pos (by rw [getLast?_squeeze, h])]
  · rw [squeeze_append fun he => absurd he h, withTrail, if_neg (by rw [getLast?_squeeze]; exact h)]
    rfl

theorem withLead_withTrail (cs : List Char) :
    withLead (withTrail cs) = withTrail (withLead cs) := by
  by_cases hcs : cs = []
  · rw [hcs]
    rfl
  · have hhead : (withTrail cs).head? = cs.head? := by
      unfold withTrail
      split
      · rfl
      · exact List.head?_append_of_ne_nil _ hcs
    unfold withLead
    rw [hhead]
    split
    · rfl
    · simp only [withTrail, List.getLast?_cons_of_ne_nil hcs]
      split <;> rfl

section Blanks

theorem isBlank_slash : isBlank '/' = false := by decide

/-- A text with nothing blank in it is not trimmed. -/
theorem trimStart_eq_self {cs : List Char} (h : ∀ c ∈ cs, isBlank c = false) :
    trimStart cs = cs := by
  cases cs with
  | nil => rfl
  | cons c r => simp [trimStart, h c]

theorem trimEnd_eq_self {cs : List Char} (h : ∀ c ∈ cs, isBlank c = false) : trimEnd cs = cs := by
  rw [trimEnd, trimStart_eq_self (by simpa using h), List.reverse_reverse]

theorem trim_eq_self {cs : List Char} (h : ∀ c ∈ cs, isBlank c = false) : trim cs = cs := by
  rw [trim, trimStart_eq_self h, trimEnd_eq_self h]

/-- Behind a text with nothing blank in it only the end is trimmed. -/
theorem trim_splice {a : List Char} (h : ∀ c ∈ a, isBlank c = false) {c : Char}
    (hc : isBlank c = false) (b : List Char) : trim (a ++ c :: b) = a ++ c :: trimEnd b := by
  rw [trim, trimStart_append hc, trimStart_eq_self h, trimEnd_append hc]

theorem trimStart_squeeze (cs : List Char) : trimStart (squeeze cs) = squeeze (trimStart cs) := by
  induction cs with
  | nil => rfl
  | cons c r ih =>
    by_cases hc : isBlank c = true
    · have hslash : c ≠ '/' := by
        rintro rfl
        cases hc
      simpa [squeeze, hslash, trimStart, hc] using ih
    · obtain ⟨t, ht⟩ := List.head?_eq_some_iff.1 (head?_squeeze (c :: r))
      simp [ht, trimStart, hc]

theorem trimEnd_append_blank (a : List Char) {b : List Char} (h : ∀ c ∈ b, isBlank c = true) :
    trimEnd (a ++ b) = trimEnd a := by
  rw [trimEnd, trimEnd, List.reverse_append, trimStart, trimStart,
    List.dropWhile_append_of_pos (by simpa using h)]

theorem squeeze_of_notMem {cs : List Char} (h : '/' ∉ cs) : squeeze cs = cs := by
  induction cs with
  | nil => rfl
  | cons c r ih =>
    simp only [List.mem_cons, not_or] at h
    rw [squeeze, if_neg fun hs => h.1 hs.1.symm, ih h.2]

theorem trimEnd_cons_of_ne_nil (c : Char) {r : List Char} (h : trimEnd r ≠ []) :
    trimEnd (c :: r) = c :: trimEnd r := by
  rcases all_blank_or r with hr | ⟨a, d, b, hd, rfl⟩
  · exact absurd (trimEnd_eq_nil hr) h
  · rw [trimEnd_append hd, ← List.cons_append, trimEnd_append hd, List.cons_append]

theorem trimEnd_squeeze (cs : List Char) : trimEnd (squeeze cs) = squeeze (trimEnd cs) := by
  induction cs with
  | nil => rfl
  | cons c r ih =>
    rcases all_blank_or r with hr | ⟨a, d, b, hd, rfl⟩
    · have hslash : '/' ∉ r := fun h => by cases hr '/' h
      have hhead : r.head? ≠ some '/' := fun h => hslash (List.mem_of_head? h)
      have hone : trimEnd (c :: r) = trimEnd [c] := trimEnd_append_blank [c] hr
      rw [squeeze, if_neg fun hs => hhead hs.2, squeeze_of_notMem hslash, hone]
      by_cases hc : isBlank c = true <;> simp [trimEnd, trimStart, hc, squeeze]
    · have hne : trimEnd (a ++ d :: b) ≠ [] := by simp [trimEnd_append hd]
      have hhead : (trimEnd (a ++ d :: b)).head? = (a ++ d :: b).head? := by
        rw [trimEnd_append hd]
        cases a <;> rfl
      rw [trimEnd_cons_of_ne_nil c hne, squeeze, squeeze, hhead]
      split
      · exact ih
      · have hs : trimEnd (squeeze (a ++ d :: b)) ≠ [] := by
          rw [ih]
          exact fun he => hne (by
            rw [← List.head?_eq_none_iff, ← head?_squeeze, he]
            rfl)
        rw [trimEnd_cons_of_ne_nil c hs, ih]

theorem trim_squeeze (cs : List Char) : trim (squeeze cs) = squeeze (trim cs) := by
  rw [trim, trimStart_squeeze, trimEnd_squeeze, ← trim]

end Blanks

section Segments

/-- Two texts with a character between them that is no separator: the last piece of the one and
the first of the other become one piece. -/
theorem split_splice {sep c : Char} (hc : c ≠ sep) (x y : List Char) :
    ∃ init a b rest, split sep x = init ++ [a] ∧ split sep y = b :: rest ∧
      split sep (x ++ c :: y) = init ++ (a ++ c :: b) :: rest := by
  obtain ⟨b, rest, hy⟩ := split_eq_cons sep y
  induction x with
  | nil => exact ⟨[], [], b, rest, rfl, hy, by simp [split, hc, hy]⟩
  | cons d r ih =>
    obtain ⟨init, a, b', rest', hr, hy', hs⟩ := ih
    obtain ⟨rfl, rfl⟩ := List.cons.inj (hy.symm.trans hy')
    by_cases hd : d = sep
    · exact ⟨[] :: init, a, b, rest, by simp [split, hd, hr], hy, by simp [split, hd, hs]⟩
    · cases init with
      | nil => exact ⟨[], d :: a, b, rest, by simp_all [split], hy, by simp_all [split]⟩
      | cons i is =>
        exact ⟨(d :: i) :: is, a, b, rest, by simp_all [split], hy, by simp_all [split]⟩

theorem join_splice (sep c : Char) (init : List (List Char)) (a b : List Char)
    (rest : List (List Char)) :
    join sep (init ++ (a ++ c :: b) :: rest) =
      join sep (init ++ [a]) ++ c :: join sep (b :: rest) := by
  induction init with
  | nil => cases rest <;> simp [join]
  | cons i is ih =>
    rw [List.cons_append, List.cons_append, join_cons sep i (by simp), join_cons sep i (by simp),
      ih]
    simp

/-- Squeezing keeps the last segment. -/
theorem getLast?_split_squeeze (cs : List Char) :
    (split '/' (squeeze cs)).getLast? = (split '/' cs).getLast? := by
  by_cases h : '/' ∈ cs
  · obtain ⟨v, u, hrev, hv⟩ := List.eq_append_cons_of_mem (List.mem_reverse.2 h)
    have hcs : cs = u.reverse ++ '/' :: v.reverse := by simpa using congrArg List.reverse hrev
    have hv : '/' ∉ v.reverse := by simpa using hv
    have hlast : ∀ x : List Char,
        (split '/' (x ++ '/' :: v.reverse)).getLast? = some v.reverse := by
      intro x
      rw [split_append, split_of_notMem hv]
      simp
    obtain ⟨x, hx⟩ : ∃ x, squeeze (u.reverse ++ ['/']) = x ++ ['/'] :=
      List.getLast?_eq_some_iff.1 (by rw [getLast?_squeeze]; simp)
    have hsqueeze : squeeze cs = x ++ '/' :: v.reverse := by
      rw [hcs, List.append_cons, squeeze_append fun _ h => hv (List.mem_of_head? h), hx,
        squeeze_of_notMem hv]
      simp
    rw [hsqueeze, hlast, hcs, hlast]
  · rw [squeeze_of_notMem h]

theorem mem_join {sep c : Char} {ns : List (List Char)} (h : c ∈ join sep ns) :
    c = sep ∨ ∃ n ∈ ns, c ∈ n := by
  induction ns with
  | nil => simp [join] at h
  | cons n r ih =>
    by_cases hr : r = []
    · exact .inr ⟨n, by simp, by simpa [hr, join] using h⟩
    · rw [join_cons sep n hr, List.mem_append, List.mem_cons] at h
      rcases h with h | rfl | h
      · exact .inr ⟨n, by simp, h⟩
      · exact .inl rfl
      · rcases ih h with rfl | ⟨m, hm, hc⟩
        · exact .inl rfl
        · exact .inr ⟨m, by simp [hm], hc⟩

theorem mem_join_of_mem {sep c : Char} {ns : List (List Char)} {n : List Char} (hn : n ∈ ns)
    (hc : c ∈ n) : c ∈ join sep ns := by
  induction ns with
  | nil => simp at hn
  | cons m r ih =>
    by_cases hr : r = []
    · simp_all [join]
    · rw [join_cons sep m hr]
      rcases List.mem_cons.1 hn with rfl | hn
      · simp [hc]
      · simp [ih hn]

theorem mem_of_mem_split {sep c : Char} {cs n : List Char} (hn : n ∈ split sep cs) (hc : c ∈ n) :
    c ∈ cs := by
  rw [← join_split sep cs]
  exact mem_join_of_mem hn hc

end Segments

end Chars
end RestShell
