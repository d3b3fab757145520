import Mathlib.Data.List.DropRight
import RestShell.Text.Blank
import RestShell.Text.Split

/-! Pieces of a text. Splitting what was joined gives the pieces back; trimming a joined
text trims its first piece at the start and its last piece at the end, unless the
separator is a blank itself. -/

namespace RestShell
namespace Chars

theorem split_eq_cons (sep : Char) (cs : List Char) : ∃ p ps, split sep cs = p :: ps :=
  List.exists_cons_of_ne_nil (split_ne_nil sep cs)

theorem split_append (sep : Char) (a b : List Char) :
    split sep (a ++ sep :: b) = split sep a ++ split sep b := by
  induction a with
  | nil => simp [split]
  | cons c r ih =>
    obtain ⟨p, ps, hp⟩ := split_eq_cons sep r
    rw [hp] at ih
    by_cases hc : c = sep <;> simp [split, hc, hp, ih]

theorem notMem_of_mem_split {sep : Char} {cs p : List Char} (h : p ∈ split sep cs) : sep ∉ p := by
  induction cs generalizing p with
  | nil => simp_all [split]
  | cons c r ih =>
    obtain ⟨q, qs, hq⟩ := split_eq_cons sep r
    rw [hq] at ih
    by_cases hc : c = sep
    · simp only [split, hc, hq, if_true, List.mem_cons] at h
      rcases h with rfl | h
      · simp
      · exact ih (by simpa using h)
    · simp only [split, hc, hq, if_false, List.mem_cons] at h
      rcases h with rfl | h
      · simpa [Ne.symm hc] using ih (p := q) (by simp)
      · exact ih (by simp [h])

theorem split_of_notMem {sep : Char} {cs : List Char} (h : sep ∉ cs) : split sep cs = [cs] := by
  induction cs with
  | nil => rfl
  | cons c r ih =>
    simp only [List.mem_cons, not_or] at h
    simp [split, Ne.symm h.1, ih h.2]

theorem join_cons (sep : Char) (p : List Char) {ps : List (List Char)} (h : ps ≠ []) :
    join sep (p :: ps) = p ++ sep :: join sep ps := by
  obtain ⟨q, qs, rfl⟩ := List.exists_cons_of_ne_nil h
  rfl

theorem join_concat (sep : Char) {ps : List (List Char)} (h : ps ≠ []) (p : List Char) :
    join sep (ps ++ [p]) = join sep ps ++ sep :: p := by
  induction ps with
  | nil => exact absurd rfl h
  | cons q qs ih =>
    by_cases hq : qs = []
    · simp [hq, join]
    · rw [List.cons_append, join_cons sep q (by simp), join_cons sep q hq, ih hq]
      simp

theorem split_join {sep : Char} {ps : List (List Char)} (hne : ps ≠ []) (h : ∀ p ∈ ps, sep ∉ p) :
    split sep (join sep ps) = ps := by
  induction ps with
  | nil => exact absurd rfl hne
  | cons p ps ih =>
    have hp : split sep p = [p] := split_of_notMem (h p (by simp))
    by_cases hps : ps = []
    · simpa [hps, join] using hp
    · rw [join_cons sep p hps, split_append, hp, ih hps fun q hq => h q (by simp [hq])]
      rfl

theorem cut_append {sep : Char} {a : List Char} (h : sep ∉ a) (b : List Char) :
    cut sep (a ++ sep :: b) = some (a, b) := by
  induction a with
  | nil => simp [cut]
  | cons c r ih =>
    simp only [List.mem_cons, not_or] at h
    simp [cut, Ne.symm h.1, ih h.2]

/-- Pieces before a separator that neither of them has are the same. -/
theorem append_cons_cancel {sep : Char} {a b r t : List Char} (ha : sep ∉ a) (hb : sep ∉ b)
    (h : a ++ sep :: r = b ++ sep :: t) : a = b ∧ r = t := by
  have hcut := congrArg (cut sep) h
  rw [cut_append ha, cut_append hb] at hcut
  simpa using hcut

section Trim

theorem trimStart_append {a b : List Char} {c : Char} (hc : isBlank c = false) :
    trimStart (a ++ c :: b) = trimStart a ++ c :: b := by
  unfold trimStart
  rw [List.dropWhile_append]
  split
  · rename_i h
    simp [List.isEmpty_iff.1 h, hc]
  · rfl

theorem trimEnd_append {a b : List Char} {c : Char} (hc : isBlank c = false) :
    trimEnd (a ++ c :: b) = a ++ c :: trimEnd b := by
  have h : (a ++ c :: b).reverse = b.reverse ++ c :: a.reverse := by simp
  unfold trimEnd
  rw [h, trimStart_append hc]
  simp

/-- A text is blank throughout, or it has a character that no trimming removes. -/
theorem all_blank_or (cs : List Char) :
    (∀ c ∈ cs, isBlank c = true) ∨ ∃ a c b, isBlank c = false ∧ cs = a ++ c :: b := by
  by_cases h : ∃ c ∈ cs, isBlank c = false
  · obtain ⟨c, hc, hb⟩ := h
    obtain ⟨a, b, rfl⟩ := List.append_of_mem hc
    exact .inr ⟨a, c, b, hb, rfl⟩
  · exact .inl fun c hc => by
      by_contra hb
      exact h ⟨c, hc, by simpa using hb⟩

theorem trimStart_eq_nil {cs : List Char} (h : ∀ c ∈ cs, isBlank c = true) : trimStart cs = [] :=
  List.dropWhile_eq_nil_iff.2 h

theorem trimEnd_eq_nil {cs : List Char} (h : ∀ c ∈ cs, isBlank c = true) : trimEnd cs = [] := by
  unfold trimEnd
  rw [trimStart_eq_nil (by simpa using h)]
  rfl

theorem trimEnd_trimStart (cs : List Char) : trimEnd (trimStart cs) = trimStart (trimEnd cs) := by
  rcases all_blank_or cs with h | ⟨a, c, b, hc, rfl⟩
  · rw [trimStart_eq_nil h, trimEnd_eq_nil h]
    rfl
  · rw [trimStart_append hc, trimEnd_append hc, trimEnd_append hc, trimStart_append hc]

theorem trimStart_trimStart (cs : List Char) : trimStart (trimStart cs) = trimStart cs :=
  List.dropWhile_idempotent _ cs

theorem trimEnd_trimEnd (cs : List Char) : trimEnd (trimEnd cs) = trimEnd cs := by
  simp [trimEnd, trimStart_trimStart]

theorem trim_trimStart (cs : List Char) : trim (trimStart cs) = trim cs := by
  simp [trim, trimStart_trimStart]

theorem trim_trimEnd (cs : List Char) : trim (trimEnd cs) = trim cs := by
  simp only [trim]
  rw [← trimEnd_trimStart, trimEnd_trimEnd]

theorem trim_trim (cs : List Char) : trim (trim cs) = trim cs := by
  rw [show trim (trim cs) = trim (trimEnd (trimStart cs)) from rfl, trim_trimEnd, trim_trimStart]

theorem trimStart_subset (cs : List Char) : trimStart cs ⊆ cs := (List.dropWhile_sublist _).subset

theorem trimEnd_subset (cs : List Char) : trimEnd cs ⊆ cs := by
  intro c hc
  have h : c ∈ trimStart cs.reverse := by simpa [trimEnd] using hc
  simpa using trimStart_subset cs.reverse h

theorem trim_subset (cs : List Char) : trim cs ⊆ cs := fun _ hc =>
  trimStart_subset cs (trimEnd_subset _ hc)

variable {sep : Char}

theorem trimStart_join (hs : isBlank sep = false) (p : List Char) (ps : List (List Char)) :
    trimStart (join sep (p :: ps)) = join sep (trimStart p :: ps) := by
  by_cases h : ps = []
  · simp [h, join]
  · rw [join_cons sep _ h, join_cons sep _ h, trimStart_append hs]

theorem trimEnd_join (hs : isBlank sep = false) (ps : List (List Char)) (p : List Char) :
    trimEnd (join sep (ps ++ [p])) = join sep (ps ++ [trimEnd p]) := by
  by_cases h : ps = []
  · simp [h, join]
  · rw [join_concat sep h, join_concat sep h, trimEnd_append hs]

/-- Of two pieces or more, the first is trimmed at its start and the last at its end. -/
theorem trim_join (hs : isBlank sep = false) (first : List Char) (inner : List (List Char))
    (last : List Char) :
    trim (join sep (first :: (inner ++ [last]))) =
      join sep (trimStart first :: (inner ++ [trimEnd last])) := by
  have h := trimEnd_join hs (trimStart first :: inner) last
  simpa only [trim, trimStart_join hs, List.cons_append] using h

end Trim

theorem dropLead?_eq_some_iff {lead cs r : List Char} :
    dropLead? lead cs = some r ↔ cs = lead ++ r := by
  induction lead generalizing cs with
  | nil => simp [dropLead?]
  | cons l ls ih =>
    cases cs with
    | nil => simp [dropLead?]
    | cons c t =>
      by_cases hc : l = c
      · simp [dropLead?, hc, ih]
      · simp [dropLead?, hc, Ne.symm hc]

end Chars

namespace Text

theorem dropLead?_eq_some_iff {lead s t : String} : dropLead? lead s = some t ↔ s = lead ++ t := by
  unfold dropLead?
  rw [Option.map_eq_some_iff]
  constructor
  · rintro ⟨r, hr, rfl⟩
    rw [← String.toList_inj, Chars.dropLead?_eq_some_iff.1 hr]
    simp
  · rintro rfl
    exact ⟨t.toList, Chars.dropLead?_eq_some_iff.2 String.toList_append, String.ofList_toList⟩

theorem dropLast?_eq_some {c : Char} {s t : String} (h : dropLast? c s = some t) :
    s = t ++ String.singleton c := by
  unfold dropLast? at h
  split at h
  · rename_i l r hr
    split at h
    · rename_i hl
      cases h
      have hs : s.toList = r.reverse ++ [l] := by simpa using congrArg List.reverse hr
      rw [← String.toList_inj, hs, hl]
      simp
    · cases h
  · cases h

end Text
end RestShell
