import Mathlib.Data.List.Chain
import RestShell.Address.Path
import RestShell.Proofs.Text.Pieces

/-! The names on a path, that is its segments without the empty ones. Squeezing slashes
and forcing them at the ends leaves the names as they are, so that normalising changes
them by trimming only. -/

namespace RestShell
namespace Chars

/-- The names of a path, outermost first. -/
def names (cs : List Char) : List (List Char) := (split '/' cs).filter fun n => !n.isEmpty

theorem places_eq (cs : List Char) : places cs = (names cs).reverse := rfl

theorem mem_names {n cs : List Char} : n ∈ names cs ↔ n ∈ split '/' cs ∧ n ≠ [] := by
  simp [names]

@[simp] theorem names_nil : names [] = [] := rfl

theorem names_append (a b : List Char) : names (a ++ '/' :: b) = names a ++ names b := by
  simp [names, split_append]

@[simp] theorem names_slash (cs : List Char) : names ('/' :: cs) = names cs :=
  names_append [] cs

theorem names_withLead (cs : List Char) : names (withLead cs) = names cs := by
  unfold withLead
  split <;> simp

theorem names_withTrail (cs : List Char) : names (withTrail cs) = names cs := by
  unfold withTrail
  split
  · rfl
  · simp [names_append]

theorem names_join {ps : List (List Char)} (h : ∀ p ∈ ps, '/' ∉ p) :
    names (join '/' ps) = ps.filter fun n => !n.isEmpty := by
  by_cases hne : ps = []
  · simp [hne, join]
  · rw [names, split_join hne h]

/-- The first segment stays; of the others only empty ones go. -/
theorem split_squeeze (cs : List Char) : ∃ p ps qs, split '/' cs = p :: ps ∧
    split '/' (squeeze cs) = p :: qs ∧
    (qs.filter fun n => !n.isEmpty) = ps.filter fun n => !n.isEmpty := by
  induction cs with
  | nil => exact ⟨[], [], [], rfl, rfl, rfl⟩
  | cons c r ih =>
    obtain ⟨p, ps, qs, hr, hs, hf⟩ := ih
    by_cases hc : c = '/'
    · by_cases hh : r.head? = some '/'
      · obtain ⟨t, rfl⟩ := List.head?_eq_some_iff.1 hh
        have hp : p = [] := by
          simp only [split, if_true, List.cons.injEq] at hr
          exact hr.1.symm
        refine ⟨[], p :: ps, qs, ?_, ?_, ?_⟩
        · simp only [hc, split, if_true] at hr ⊢
          simp [← hr]
        · simpa [squeeze, hc, hp] using hs
        · simp [hp, hf]
      · refine ⟨[], p :: ps, p :: qs, by simp [split, hc, hr], ?_, ?_⟩
        · simp [squeeze, hh, hc, split, hs]
        · simp only [List.filter_cons, hf]
    · exact ⟨c :: p, ps, qs, by simp [split, hc, hr], by simp [squeeze, hc, split, hs], hf⟩

theorem names_squeeze (cs : List Char) : names (squeeze cs) = names cs := by
  obtain ⟨p, ps, qs, hr, hs, hf⟩ := split_squeeze cs
  simp only [names, hr, hs, List.filter_cons, hf]

theorem names_normalize (lead trail : Bool) (cs : List Char) :
    names (normalize lead trail cs) = names (trim cs) := by
  unfold normalize
  cases lead <;> cases trail <;> simp [names_withLead, names_withTrail, names_squeeze]

/-- No two slashes stand together. -/
def Spaced (cs : List Char) : Prop := cs.IsChain fun a b => ¬(a = '/' ∧ b = '/')

theorem Spaced.no_double_slash {cs : List Char} (h : Spaced cs) : ¬ ['/', '/'] <:+: cs := by
  intro hi
  have hc : Spaced ['/', '/'] := h.infix hi
  simp [Spaced] at hc

theorem head?_squeeze (cs : List Char) : (squeeze cs).head? = cs.head? := by
  induction cs with
  | nil => rfl
  | cons c r ih =>
    simp only [squeeze]
    split
    · rename_i h
      rw [ih, h.1, h.2]
      rfl
    · rfl

theorem spaced_squeeze (cs : List Char) : Spaced (squeeze cs) := by
  induction cs with
  | nil => exact List.IsChain.nil
  | cons c r ih =>
    simp only [squeeze]
    split
    · exact ih
    · rename_i h
      refine List.isChain_cons.2 ⟨?_, ih⟩
      intro d hd hcd
      rw [head?_squeeze] at hd
      exact h ⟨hcd.1, by rw [Option.mem_def.1 hd, hcd.2]⟩

theorem Spaced.withLead {cs : List Char} (h : Spaced cs) : Spaced (withLead cs) := by
  unfold Chars.withLead
  split
  · exact h
  · rename_i hh
    exact List.isChain_cons.2 ⟨fun d hd hcd => hh (by rw [Option.mem_def.1 hd, hcd.2]), h⟩

theorem Spaced.withTrail {cs : List Char} (h : Spaced cs) : Spaced (withTrail cs) := by
  unfold Chars.withTrail
  split
  · exact h
  · rename_i hl
    refine List.isChain_append.2 ⟨h, List.IsChain.singleton _, ?_⟩
    intro a ha b _ hab
    exact hl (by rw [Option.mem_def.1 ha, hab.1])

theorem spaced_normalize (lead trail : Bool) (cs : List Char) :
    Spaced (normalize lead trail cs) := by
  have h := spaced_squeeze (trim cs)
  unfold normalize
  cases lead <;> cases trail <;> simp [h, h.withLead, h.withTrail, h.withLead.withTrail]

theorem head?_withLead (cs : List Char) : (withLead cs).head? = some '/' := by
  unfold withLead
  split
  · assumption
  · rfl

theorem head?_withTrail {cs : List Char} (h : cs.head? = some '/') :
    (withTrail cs).head? = some '/' := by
  unfold withTrail
  split
  · exact h
  · simp [List.head?_append, h]

theorem head?_normalize (trail : Bool) (cs : List Char) :
    (normalize true trail cs).head? = some '/' := by
  cases trail
  · exact head?_withLead _
  · exact head?_withTrail (head?_withLead _)

theorem squeeze_sublist (cs : List Char) : List.Sublist (squeeze cs) cs := by
  induction cs with
  | nil => exact List.Sublist.slnil
  | cons c r ih =>
    simp only [squeeze]
    split
    · exact ih.cons c
    · exact ih.cons_cons c

theorem mem_of_mem_withLead {cs : List Char} {c : Char} (h : c ∈ withLead cs) :
    c = '/' ∨ c ∈ cs := by
  unfold withLead at h
  split at h
  · exact .inr h
  · simpa using h

theorem mem_of_mem_withTrail {cs : List Char} {c : Char} (h : c ∈ withTrail cs) :
    c = '/' ∨ c ∈ cs := by
  unfold withTrail at h
  split at h
  · exact .inr h
  · simpa [or_comm] using h

/-- Normalising adds nothing but slashes. -/
theorem mem_of_mem_normalize {lead trail : Bool} {cs : List Char} {c : Char}
    (h : c ∈ normalize lead trail cs) : c = '/' ∨ c ∈ cs := by
  have hbase : c ∈ squeeze (trim cs) → c ∈ cs := fun hc =>
    trim_subset cs ((squeeze_sublist _).subset hc)
  unfold normalize at h
  cases lead <;> cases trail
  · exact .inr (hbase h)
  · exact (mem_of_mem_withTrail h).imp_right hbase
  · exact (mem_of_mem_withLead h).imp_right hbase
  · rcases mem_of_mem_withTrail h with hc | hc
    · exact .inl hc
    · exact (mem_of_mem_withLead hc).imp_right hbase

end Chars
end RestShell
