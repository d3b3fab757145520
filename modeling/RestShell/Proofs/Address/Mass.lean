import Mathlib.Algebra.GroupWithZero.Nat
import RestShell.Proofs.Address.Splice

/-! The mass of a text: the number of its characters other than the marks that lead and join
queries. Whatever squeezing, trimming and walking take from a text has mass. -/

namespace RestShell
namespace Chars

section Mass

/-- The number of characters other than the marks that lead and join queries. -/
def mass (cs : List Char) : Nat := cs.countP fun c => c != '?' && c != '&'

@[simp] theorem mass_nil : mass [] = 0 := rfl

@[simp] theorem mass_append (a b : List Char) : mass (a ++ b) = mass a + mass b :=
  List.countP_append

@[simp] theorem mass_slash (cs : List Char) : mass ('/' :: cs) = mass cs + 1 := by
  simp [mass]

@[simp] theorem mass_question (cs : List Char) : mass ('?' :: cs) = mass cs := by
  simp [mass]

theorem mass_le_of_sublist {a b : List Char} (h : List.Sublist a b) : mass a ≤ mass b :=
  h.countP_le

/-- What squeezing removes has mass. -/
theorem mass_squeeze (cs : List Char) :
    mass (squeeze cs) + cs.length = mass cs + (squeeze cs).length := by
  induction cs with
  | nil => rfl
  | cons c r ih =>
    simp only [squeeze]
    split
    · rename_i h
      rw [h.1, mass_slash, List.length_cons]
      omega
    · simp only [mass, List.countP_cons, List.length_cons] at ih ⊢
      omega

theorem mass_squeeze_lt {cs : List Char} (h : ¬ Spaced cs) : mass (squeeze cs) < mass cs := by
  have hmass := mass_squeeze cs
  have hle := (squeeze_sublist cs).length_le
  have hne : (squeeze cs).length ≠ cs.length := fun he =>
    h (squeeze_eq_self_iff.1 ((squeeze_sublist cs).eq_of_length he))
  omega

theorem prefix_trimEnd (cs : List Char) : trimEnd cs <+: cs := List.rdropWhile_prefix isBlank cs

/-- What trimming removes has mass. -/
theorem mass_trimEnd_lt {cs : List Char} (h : trimEnd cs ≠ cs) : mass (trimEnd cs) < mass cs := by
  obtain ⟨b, hb⟩ := prefix_trimEnd cs
  have hne : b ≠ [] := by
    rintro rfl
    exact h (by simpa using hb)
  have hlast : isBlank (b.getLast hne) = true := by
    by_contra hc
    refine h (List.rdropWhile_eq_self_iff.2 fun hl => ?_)
    have he : cs.getLast hl = b.getLast hne := by
      generalize trimEnd cs = t at hb
      subst hb
      exact List.getLast_append_of_ne_nil _ hne
    rwa [he]
  have hpos : 0 < mass b := by
    refine List.countP_pos_iff.2 ⟨b.getLast hne, List.getLast_mem hne, ?_⟩
    have hq : b.getLast hne ≠ '?' := fun he => by
      rw [he] at hlast
      cases hlast
    have ha : b.getLast hne ≠ '&' := fun he => by
      rw [he] at hlast
      cases hlast
    simp [hq, ha]
  have hmass : mass cs = mass (trimEnd cs) + mass b := by rw [← mass_append, hb]
  omega

/-- Squeezing and trimming a text that they change takes mass from it. -/
theorem mass_squeeze_trimEnd_lt {q : List Char} (h : ¬ (Spaced q ∧ trimEnd q = q)) :
    mass (squeeze (trimEnd q)) < mass q := by
  have hle : mass (squeeze (trimEnd q)) ≤ mass (trimEnd q) :=
    mass_le_of_sublist (squeeze_sublist _)
  by_cases hb : trimEnd q = q
  · rw [hb]
    exact mass_squeeze_lt fun hs => h ⟨hs, hb⟩
  · exact hle.trans_lt (mass_trimEnd_lt hb)

end Mass

section Walks

/-- The mass of names with a slash to each. -/
def load (ns : List (List Char)) : Nat := (ns.map fun n => mass n + 1).sum

@[simp] theorem load_nil : load [] = 0 := rfl

@[simp] theorem load_cons (n : List Char) (ns : List (List Char)) :
    load (n :: ns) = mass n + 1 + load ns := by
  simp [load]

@[simp] theorem load_append (a b : List (List Char)) : load (a ++ b) = load a + load b := by
  simp [load]

@[simp] theorem load_reverse (ns : List (List Char)) : load ns.reverse = load ns := by
  induction ns with
  | nil => rfl
  | cons n r ih => simp [ih, Nat.add_comm]

theorem mass_join (n : List Char) (ns : List (List Char)) :
    mass (join '/' (n :: ns)) = mass n + load ns := by
  induction ns generalizing n with
  | nil => simp [join]
  | cons m r ih =>
    rw [join_cons '/' n (by simp), mass_append, mass_slash, ih, load_cons]
    omega

theorem walk_append (opened a b : List (List Char)) :
    walk opened (a ++ b) = (walk opened a).bind fun closed => walk closed b := by
  induction a generalizing opened with
  | nil => rfl
  | cons n r ih =>
    simp only [List.cons_append, walk, ih]
    split
    · rfl
    · split
      · cases opened <;> rfl
      · rfl

theorem walk_name {n : List Char} (hne : n ≠ []) (hd : ¬ IsDots n)
    (opened rest : List (List Char)) :
    walk opened (n :: rest) = walk (n :: opened) rest := by
  simp only [IsDots, not_or] at hd
  simp [walk, hne, hd]

/-- Without dots a walk goes down all names. -/
theorem walk_of_not_dots {segments : List (List Char)} (h : ∀ n ∈ segments, ¬ IsDots n)
    (opened : List (List Char)) :
    walk opened segments = some ((segments.filter fun n => !n.isEmpty).reverse ++ opened) := by
  induction segments generalizing opened with
  | nil => rfl
  | cons n r ih =>
    rw [List.forall_mem_cons] at h
    by_cases hn : n = []
    · simpa [walk, hn] using ih h.2 opened
    · rw [walk_name hn h.1, ih h.2]
      simp [hn]

/-- What a segment that leads to no name costs at least. -/
def cost (n : List Char) : Nat := if n = [] then 1 else if IsDots n then 2 else 0

theorem load_walk_le {opened segments closed : List (List Char)}
    (h : walk opened segments = some closed) :
    load closed + (segments.map cost).sum ≤ load opened + load segments := by
  induction segments generalizing opened with
  | nil =>
    cases h
    simp
  | cons n r ih =>
    simp only [walk] at h
    simp only [List.map_cons, List.sum_cons, load_cons]
    split at h
    · rename_i hn
      have hr := ih h
      rcases hn with rfl | rfl
      · have hc : cost [] = 1 := rfl
        simp only [mass_nil, hc]
        omega
      · have hc : cost ['.'] = 2 := rfl
        have hm : mass ['.'] = 1 := rfl
        omega
    · split at h
      · rename_i hn
        subst hn
        have hc : cost ['.', '.'] = 2 := rfl
        have hm : mass ['.', '.'] = 2 := rfl
        cases opened with
        | nil => cases h
        | cons o outer =>
          have hr := ih h
          rw [load_cons]
          omega
      · rename_i hn hd
        have hr := ih h
        rw [load_cons] at hr
        have hc : cost n = 0 := by
          simp only [not_or] at hn
          simp [cost, IsDots, hn, hd]
        omega

theorem two_le_cost {n : List Char} {rest : List (List Char)} (hn : n ∈ rest) (hd : IsDots n) :
    2 ≤ (rest.map cost).sum := by
  have hcost : cost n = 2 := by rw [cost, if_neg hd.ne_nil, if_pos hd]
  obtain ⟨before, after, rfl⟩ := List.append_of_mem hn
  simp only [List.map_append, List.map_cons, List.sum_append, List.sum_cons, hcost]
  omega

theorem three_le_cost {n : List Char} {rest : List (List Char)} (hn : n ∈ rest) (hd : IsDots n)
    (hlast : rest.getLast? = some []) : 3 ≤ (rest.map cost).sum := by
  obtain ⟨init, rfl⟩ := List.getLast?_eq_some_iff.1 hlast
  have hinit : n ∈ init := by simpa [hd.ne_nil] using hn
  have htwo := two_le_cost hinit hd
  have hone : cost [] = 1 := rfl
  simp only [List.map_append, List.sum_append, List.map_cons, List.map_nil, List.sum_cons,
    List.sum_nil, hone]
  omega

theorem mass_withTrail_le (cs : List Char) : mass (withTrail cs) ≤ mass cs + 1 := by
  unfold withTrail
  split <;> simp

theorem mass_normalize_le (trail : Bool) (ns : List (List Char)) :
    mass (normalize true trail (join '/' ns)) ≤ load ns + 1 + if trail = true then 1 else 0 := by
  have hjoin : mass (join '/' ns) ≤ load ns := by
    cases ns with
    | nil => exact Nat.le_refl 0
    | cons n r =>
      rw [mass_join, load_cons]
      omega
  have htrim : mass (squeeze (trim (join '/' ns))) ≤ mass (join '/' ns) :=
    mass_le_of_sublist ((squeeze_sublist _).trans
      ((prefix_trimEnd _).sublist.trans (List.dropWhile_sublist _)))
  have hlead : mass (withLead (squeeze (trim (join '/' ns)))) ≤ load ns + 1 := by
    unfold withLead
    split
    · omega
    · rw [mass_slash]
      omega
  unfold normalize
  simp only [if_true]
  split
  · exact (mass_withTrail_le _).trans (by omega)
  · simpa using hlead

end Walks

end Chars
end RestShell
