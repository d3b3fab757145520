import Mathlib.Data.List.Induction
import RestShell.Assoc

/-! Association lists that are built up. Merging entries into a list leaves under each key
the value of the last entry for it, and adds the keys it meets for the first time at
the end. -/

namespace RestShell
namespace Assoc
variable {β : Type}

/-- The value of the last entry under a key. -/
def last? (k : String) (m : Assoc β) : Option β := get? k m.reverse

theorem get?_append (a b : Assoc β) (k : String) : get? k (a ++ b) = (get? k a).or (get? k b) := by
  induction a with
  | nil => rfl
  | cons e r ih =>
    simp only [List.cons_append, get?]
    split
    · rfl
    · exact ih

theorem mem_of_get? {m : Assoc β} {k : String} {v : β} (h : m.get? k = some v) : (k, v) ∈ m := by
  induction m with
  | nil => cases h
  | cons e r ih =>
    rw [get?] at h
    split at h
    · rename_i hk
      cases h
      exact hk ▸ List.mem_cons_self
    · exact List.mem_cons_of_mem e (ih h)

theorem last?_cons (e : String × β) (r : Assoc β) (k : String) :
    last? k (e :: r) = (last? k r).or (if e.1 = k then some e.2 else none) := by
  rw [last?, List.reverse_cons, get?_append]
  rfl

theorem get?_erase_of_ne {j k : String} (h : j ≠ k) (m : Assoc β) :
    (m.erase j).get? k = m.get? k := by
  induction m with
  | nil => rfl
  | cons e r ih =>
    by_cases he : e.1 = j
    · simp [erase, get?, he, h]
    · simp only [erase, he, if_false, get?, ih]

theorem eq_of_get?_erase_ne {j k : String} {m : Assoc β} (h : (m.erase j).get? k ≠ m.get? k) :
    j = k := by
  by_contra hne
  exact h (get?_erase_of_ne hne m)

theorem eq_of_get?_put_ne {j k : String} {v : β} {m : Assoc β}
    (h : (m.put j v).get? k ≠ m.get? k) : j = k := by
  by_contra hne
  rw [get?_put, if_neg hne] at h
  exact h rfl

theorem get?_merge (m more : Assoc β) (k : String) :
    (m.merge more).get? k = (last? k more).or (m.get? k) := by
  induction more generalizing m with
  | nil => rfl
  | cons e r ih =>
    have hput : m.merge (e :: r) = (m.put e.1 e.2).merge r := rfl
    rw [hput, ih, get?_put, last?_cons]
    cases last? k r <;> split <;> rfl

theorem merge_concat (m more : Assoc β) (e : String × β) :
    m.merge (more ++ [e]) = (m.merge more).put e.1 e.2 := by
  simp [merge]

theorem merge_append (m a b : Assoc β) : m.merge (a ++ b) = (m.merge a).merge b :=
  List.foldl_append

/-- The keys of merged entries stand in the order of their first appearance. -/
theorem keys_merge_nil (more : Assoc β) : (merge [] more).keys = more.keys.eraseDups := by
  induction more using List.reverseRecOn with
  | nil => rfl
  | append_singleton more e ih =>
    have hkeys : keys (more ++ [e]) = keys more ++ [e.1] := by simp [keys]
    rw [merge_concat, keys_put, ih, hkeys, List.eraseDups_append]
    have hone : [e.1].eraseDups = [e.1] := rfl
    by_cases hk : e.1 ∈ keys more <;> simp [hk, hone, List.removeAll]

theorem distinct_merge_nil (more : Assoc β) : (merge [] more).Distinct := by
  induction more using List.reverseRecOn with
  | nil => exact List.nodup_nil
  | append_singleton more e ih =>
    rw [merge_concat]
    exact ih.put e.1 e.2

theorem Distinct.merge {m : Assoc β} (h : m.Distinct) (more : Assoc β) :
    (m.merge more).Distinct := by
  induction more generalizing m with
  | nil => exact h
  | cons e r ih => exact ih (h.put e.1 e.2)

/-- Where no key occurs twice the last entry under a key is the first one. -/
theorem last?_eq_get? {m : Assoc β} (h : m.Distinct) (k : String) : last? k m = m.get? k := by
  induction m with
  | nil => rfl
  | cons e r ih =>
    obtain ⟨hnot, hr⟩ : e.1 ∉ keys r ∧ (keys r).Nodup := List.nodup_cons.1 h
    rw [last?_cons, ih hr, get?]
    by_cases hk : e.1 = k
    · have hnone : get? k r = none := by
        rw [← Option.not_isSome_iff_eq_none, get?_isSome_iff, ← hk]
        exact hnot
      rw [hnone]
      simp [hk]
    · simp [hk]

end Assoc
end RestShell
